import Ledger.Proofs.Run

-- The shape of every state a session reaches. Keys name one account and one entry; every
-- entry carries a number issued for its tenant, so a number about to be issued is free; and
-- every entry that left draft balances and names only accounts of its tenant. Each way a
-- call can change the books keeps this, so every session does.

namespace Ledger

-- Every line of the entry names an account of the entry's tenant among these.
def Entry.Resolves (e : Entry) (accounts : List Account) : Prop :=
  ∀ l ∈ e.lines, ∃ a ∈ accounts, a.tenant = e.tenant ∧ a.code = l.code

-- The debits and credits of the entry's lines sum to one value.
def Entry.Balances (e : Entry) : Prop :=
  (e.lines.map (·.debit.value)).sum = (e.lines.map (·.credit.value)).sum

namespace Books

-- The entry's number was issued for its tenant under a prefix without a bar.
def Issued (b : Books) (e : Entry) : Prop :=
  ∃ pfx n, BarFree pfx ∧ e.number = Office.entryNumber pfx n ∧ n ≤ b.lastNumber e.tenant pfx

structure Wellformed (b : Books) : Prop where
  accountKeys : (b.accounts.map Account.key).Nodup
  entryKeys : (b.entries.map Entry.key).Nodup
  issued : ∀ e ∈ b.entries, b.Issued e
  resolved : ∀ e ∈ b.entries, e.status ≠ .draft → e.Resolves b.accounts
  balanced : ∀ e ∈ b.entries, e.status ≠ .draft → e.Balances

end Books

section Facts

variable {b b' : Books} {e e' : Entry}

theorem Entry.Resolves.map {accounts : List Account} (resolves : e.Resolves accounts)
    (f : Account → Account) (keeps : ∀ a, (f a).tenant = a.tenant ∧ (f a).code = a.code) :
    e.Resolves (accounts.map f) := by
  intro l member
  obtain ⟨a, aMember, tenant, code⟩ := resolves l member
  exact ⟨f a, List.mem_map_of_mem aMember, (keeps a).1.trans tenant, (keeps a).2.trans code⟩

theorem Entry.Resolves.mono {accounts accounts' : List Account} (resolves : e.Resolves accounts)
    (more : ∀ a ∈ accounts, a ∈ accounts') : e.Resolves accounts' := by
  intro l member
  obtain ⟨a, aMember, found⟩ := resolves l member
  exact ⟨a, more a aMember, found⟩

-- A posted entry names the accounts its draft named, which posting found in the books.
theorem Entry.Resolves.of_postLines {c : Ctx} {writes : List (String × Decimal)}
    (posted : postLines b c e = .ok (e', writes)) : e'.Resolves b.accounts := by
  intro l member
  obtain ⟨l0, l0Member, code⟩ :=
    List.mem_map.mp ((postLines_codes posted).subset (List.mem_map_of_mem member))
  obtain ⟨a, aMember, tenant, aCode, _⟩ := postLines_resolve posted l0 l0Member
  exact ⟨a, aMember, tenant.trans (postLines_fields posted).1.symm, aCode.trans code⟩

theorem Entry.Balances.of_postLines {c : Ctx} {writes : List (String × Decimal)}
    (posted : postLines b c e = .ok (e', writes)) : e'.Balances :=
  postLines_balanced posted

theorem writeBalance_keeps (writes : List (String × Decimal)) (user : String) (now : Timestamp)
    (a : Account) :
    (writeBalance writes user now a).tenant = a.tenant ∧ (writeBalance writes user now a).code = a.code :=
  ⟨writeBalance_tenant .., writeBalance_code ..⟩

theorem writeBalance_keys (writes : List (String × Decimal)) (user : String) (now : Timestamp)
    (accounts : List Account) :
    (accounts.map (writeBalance writes user now)).map Account.key = accounts.map Account.key := by
  rw [List.map_map]
  exact List.map_congr_left fun a _ => writeBalance_key ..

theorem Books.Issued.mono (issued : b.Issued e)
    (later : ∀ t p, b.lastNumber t p ≤ b'.lastNumber t p) : b'.Issued e := by
  obtain ⟨pfx, n, barFree, number, bound⟩ := issued
  exact ⟨pfx, n, barFree, number, bound.trans (later _ _)⟩

theorem Books.Issued.congr (issued : b.Issued e) (tenant : e'.tenant = e.tenant)
    (number : e'.number = e.number) : b.Issued e' := by
  obtain ⟨pfx, n, barFree, issuedNumber, bound⟩ := issued
  exact ⟨pfx, n, barFree, number.trans issuedNumber, tenant ▸ bound⟩

theorem Books.Issued.barFree (issued : b.Issued e) : BarFree e.number := by
  obtain ⟨pfx, n, barFree, number, _⟩ := issued
  rw [number]
  exact entryNumber_barFree barFree n

-- A number about to be issued names no stored entry: each stored number was issued under a
-- count no larger than the last.
theorem Books.Wellformed.fresh (sound : b.Wellformed) {pfx : String} (barFree : BarFree pfx)
    (tenant : String) :
    b.entry? (entryKey tenant (Office.entryNumber pfx (b.lastNumber tenant pfx + 1))) = none := by
  rw [Books.entry?_eq_none]
  intro x member same
  obtain ⟨pfx', n, barFree', number, bound⟩ := sound.issued x member
  rw [Entry.key, number] at same
  obtain ⟨tenants, numbers⟩ :=
    entryKey_inj_of_barFree (entryNumber_barFree barFree' n) (entryNumber_barFree barFree _) same
  obtain ⟨rfl, rfl⟩ := entryNumber_inj numbers
  rw [tenants] at bound
  omega

end Facts

namespace Books.Wellformed

variable {b : Books} {c : Ctx}

theorem opened (sound : b.Wellformed) {a : Account} (free : b.account? a.key = none) :
    ({ b with
      accounts := b.accounts ++ [a]
      accountIDs := setKey b.accountIDs a.id a.key } : Books).Wellformed where
  accountKeys :=
    nodup_map_append_singleton Account.key sound.accountKeys (Books.account?_eq_none.mp free)
  entryKeys := sound.entryKeys
  issued := sound.issued
  resolved e member live :=
    (sound.resolved e member live).mono fun _ old => List.mem_append_left _ old
  balanced := sound.balanced

theorem redescribed (sound : b.Wellformed) {b' : Books} (kept : b'.Redescribed b) :
    b'.Wellformed := by
  obtain ⟨g, keeps, rfl⟩ := kept
  refine ⟨?_, sound.entryKeys, sound.issued, fun e member live => ?_, sound.balanced⟩
  · rw [List.map_map]
    exact (List.map_congr_left fun a _ => (keeps a).key).symm ▸ sound.accountKeys
  · exact (sound.resolved e member live).map g fun a => ⟨(keeps a).tenant, (keeps a).code⟩

theorem numbered (sound : b.Wellformed) (tenant pfx : String) :
    (b.nextNumber tenant pfx).2.Wellformed where
  accountKeys := sound.accountKeys
  entryKeys := sound.entryKeys
  issued e member := (sound.issued e member).mono (Books.lastNumber_le_nextNumber tenant pfx)
  resolved := sound.resolved
  balanced := sound.balanced

theorem drafted (sound : b.Wellformed) {pfx : String} {e : Entry} (barFree : BarFree pfx)
    (tenant : e.tenant = c.tenant) (draft : e.status = .draft)
    (number : e.number = Office.entryNumber pfx (b.lastNumber c.tenant pfx + 1))
    (free : b.entry? e.key = none) :
    ({ (b.nextNumber c.tenant pfx).2 with
      entries := b.entries ++ [e]
      entryIDs := setKey b.entryIDs e.id e.key } : Books).Wellformed := by
  have later := (sound.numbered c.tenant pfx)
  refine ⟨sound.accountKeys,
    nodup_map_append_singleton Entry.key sound.entryKeys (Books.entry?_eq_none.mp free),
    fun x member => ?_, fun x member live => ?_, fun x member live => ?_⟩
  all_goals rcases List.mem_append.mp member with old | new
  · exact later.issued x old
  · rw [List.mem_singleton.mp new]
    refine ⟨pfx, _, barFree, number, ?_⟩
    show _ ≤ (b.nextNumber c.tenant pfx).2.lastNumber e.tenant pfx
    rw [tenant, Books.lastNumber_nextNumber, if_pos rfl]
  · exact later.resolved x old live
  · exact absurd (List.mem_singleton.mp new ▸ draft) live
  · exact later.balanced x old live
  · exact absurd (List.mem_singleton.mp new ▸ draft) live

theorem redrafted (sound : b.Wellformed) {e0 e : Entry} (member : e0 ∈ b.entries)
    (draft : e0.status = .draft) (same : e.Rewrites e0) : (b.replaceEntry e).Wellformed := by
  refine ⟨by simpa using sound.accountKeys, (Books.replaceEntry_keys e).symm ▸ sound.entryKeys,
    fun x xMember => ?_, fun x xMember live => ?_, fun x xMember live => ?_⟩
  all_goals rcases Books.mem_replaceEntry xMember with rfl | ⟨old, _⟩
  · exact ((sound.issued e0 member).congr same.tenant same.number).mono fun _ _ => by simp
  · exact (sound.issued x old).mono fun _ _ => by simp
  · exact absurd (same.status.trans draft) live
  · simpa using sound.resolved x old live
  · exact absurd (same.status.trans draft) live
  · exact sound.balanced x old live

theorem discarded (sound : b.Wellformed) (k : String) : (b.removeEntry k).Wellformed := by
  have sub : ∀ x ∈ (b.removeEntry k).entries, x ∈ b.entries := fun x member =>
    List.mem_of_mem_filter member
  refine ⟨sound.accountKeys, ?_, fun x member => (sound.issued x (sub x member)).mono
    fun _ _ => by simp, fun x member => sound.resolved x (sub x member),
    fun x member => sound.balanced x (sub x member)⟩
  exact (sound.entryKeys.sublist ((List.filter_sublist).map Entry.key))

-- Posting a draft: the accounts keep their keys and the posted entry takes the draft's place.
theorem posted (sound : b.Wellformed) {e0 e : Entry} {writes : List (String × Decimal)}
    (member : e0 ∈ b.entries) (posting : postLines b c e0 = .ok (e, writes)) :
    ((b.applyWrites writes c.user c.now).replaceEntry e).Wellformed := by
  obtain ⟨tenant, number, _⟩ := postLines_fields posting
  have accounts : ((b.applyWrites writes c.user c.now).replaceEntry e).accounts =
      b.accounts.map (writeBalance writes c.user c.now) := by
    rw [Books.replaceEntry_accounts, Books.applyWrites_accounts]
  refine ⟨?_, ?_, fun x xMember => ?_, fun x xMember live => ?_, fun x xMember live => ?_⟩
  · rw [accounts, writeBalance_keys]
    exact sound.accountKeys
  · rw [Books.replaceEntry_keys, Books.applyWrites_entries]
    exact sound.entryKeys
  all_goals rcases Books.mem_replaceEntry xMember with rfl | ⟨old, _⟩
  · exact ((sound.issued e0 member).congr tenant number).mono fun _ _ => by simp
  · exact (sound.issued x (by simpa using old)).mono fun _ _ => by simp
  · rw [accounts]
    exact (Entry.Resolves.of_postLines posting).map _ (writeBalance_keeps writes c.user c.now)
  · rw [accounts]
    exact (sound.resolved x (by simpa using old) live).map _ (writeBalance_keeps writes c.user c.now)
  · exact Entry.Balances.of_postLines posting
  · exact sound.balanced x (by simpa using old) live

-- Reversing: the compensating entry is posted and stored under the number just issued, and
-- the source, reversed, takes its own place.
theorem reversed (sound : b.Wellformed) {src comp : Entry} {id : String}
    {writes : List (String × Decimal)} {b' : Books} (member : src ∈ b.entries)
    (live : src.status = .posted)
    (posting : postLines (b.nextNumber c.tenant "RV").2 c
      (Office.compensation c id (Office.entryNumber "RV" (b.lastNumber c.tenant "RV" + 1)) src) =
        .ok (comp, writes))
    (stored : ((b.nextNumber c.tenant "RV").2.applyWrites writes c.user c.now).addEntry comp =
      .ok b') :
    (b'.replaceEntry { src with
      status := .reversed, reversedBy := comp.number, audit := src.audit.touch c.user c.now }).Wellformed := by
  obtain ⟨entries, fresh⟩ := Books.addEntry_after_writes stored
  obtain ⟨compTenant, compNumber, _⟩ := postLines_fields posting
  have stillLive : src.status ≠ .draft := by rw [live]; decide
  have accounts := Books.accounts_after_writes stored
  have numbers : ∀ t p, b.lastNumber t p ≤ (b'.replaceEntry { src with
      status := .reversed, reversedBy := comp.number, audit := src.audit.touch c.user c.now }).lastNumber t p := by
    intro t p
    rw [Books.replaceEntry_lastNumber, Books.lastNumber_congr (Books.addEntry_sequences stored),
      Books.applyWrites_lastNumber]
    exact Books.lastNumber_le_nextNumber ..
  refine ⟨?_, ?_, fun x xMember => ?_, fun x xMember stillLive' => ?_, fun x xMember stillLive' => ?_⟩
  · rw [accounts, writeBalance_keys]
    exact sound.accountKeys
  · rw [Books.replaceEntry_keys, entries]
    exact nodup_map_append_singleton Entry.key sound.entryKeys fresh
  all_goals rcases Books.mem_replaceEntry_after_writes stored xMember with rfl | rfl | ⟨old, _⟩
  · exact ((sound.issued src member).congr rfl rfl).mono numbers
  · refine ⟨"RV", _, barFree_reversal, compNumber, ?_⟩
    rw [Books.replaceEntry_lastNumber, Books.lastNumber_congr (Books.addEntry_sequences stored),
      Books.applyWrites_lastNumber, compTenant, Books.lastNumber_nextNumber]
    simp [Office.compensation]
  · exact (sound.issued x old).mono numbers
  · rw [accounts]
    exact (sound.resolved src member stillLive).map _ (writeBalance_keeps writes c.user c.now)
  · rw [accounts]
    exact (Entry.Resolves.of_postLines posting).map _ (writeBalance_keeps writes c.user c.now)
  · rw [accounts]
    exact (sound.resolved x old stillLive').map _ (writeBalance_keeps writes c.user c.now)
  · exact sound.balanced src member stillLive
  · exact Entry.Balances.of_postLines posting
  · exact sound.balanced x old stillLive'

-- Each way a call can change the books keeps them well formed.
theorem change (sound : b.Wellformed) {b' : Books} (change : b.Change c b') : b'.Wellformed := by
  cases change with
  | unchanged => exact sound
  | opened a free _ _ => exact sound.opened free
  | redescribed kept => exact sound.redescribed kept
  | drafted pfx e barFree tenant draft _ number free =>
    exact sound.drafted barFree tenant draft number free
  | numbered pfx _ => exact sound.numbered c.tenant pfx
  | redrafted e0 e member draft same => exact sound.redrafted member draft same
  | discarded e0 _ _ => exact sound.discarded e0.key
  | posted e0 e writes member _ posting => exact sound.posted member posting
  | reversed src comp id writes b' member _ live _ posting stored =>
    exact sound.reversed member live posting stored

end Books.Wellformed

theorem Office.start_wellformed (pageSize : Nat) : (Office.start pageSize).books.Wellformed :=
  ⟨List.nodup_nil, List.nodup_nil, by simp, by simp, by simp⟩

-- Every stretch of calls keeps the books well formed, from any well-formed start.
theorem Office.run_wellformed_from {o : Office} (sound : o.books.Wellformed) (calls : List Call) :
    (o.run calls).books.Wellformed :=
  Office.run_invariant (fun o => o.books.Wellformed)
    (fun o call sound => sound.change (Call.perform_change call o)) sound calls

-- Every session leaves well-formed books.
theorem Office.run_wellformed (pageSize : Nat) (calls : List Call) :
    ((Office.start pageSize).run calls).books.Wellformed :=
  Office.run_wellformed_from (start_wellformed pageSize) calls

end Ledger
