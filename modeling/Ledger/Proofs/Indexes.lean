import Ledger.Proofs.Hierarchy
import Ledger.Proofs.Replay
import Ledger.Proofs.PostingOrder

-- The store's indexes. Accounts and entries are stored under the keys their tenant and code or
-- number make; an identifier index maps the identifier of every stored row to its key, and the
-- posting order numbers the entries out of draft. Over every session no key is taken twice,
-- each identifier index is exactly the map from the stored rows' identifiers to their keys, so
-- a row is found alike by its key and by its identifier, and the posting order lists the key of
-- every entry out of draft once, under distinct numbers none above the last number given.
-- Accounts keep their identifiers apart because the store refuses a taken one; entries, because
-- each takes a fresh one from an injective generator.

namespace Ledger

-- `idx` maps the identifier of every row to the row's key, and nothing else.
def Indexes {α : Type} (idx : List (String × String)) (rows : List α) (id key : α → String) : Prop :=
  ∀ i k, idx.lookup i = some k ↔ ∃ r ∈ rows, id r = i ∧ key r = k

namespace Indexes

variable {α : Type} {idx : List (String × String)} {rows : List α} {id key : α → String}

theorem empty : Indexes [] ([] : List α) id key := fun _ _ => by simp

theorem lookup_row (indexed : Indexes idx rows id key) {r : α} (member : r ∈ rows) :
    idx.lookup (id r) = some (key r) :=
  (indexed _ _).mpr ⟨r, member, rfl, rfl⟩

-- Rows apart by key are apart by identifier.
theorem eq_of_id (indexed : Indexes idx rows id key) (nodup : (rows.map key).Nodup) {r r' : α}
    (member : r ∈ rows) (member' : r' ∈ rows) (same : id r = id r') : r = r' := by
  have keys := indexed.lookup_row member
  rw [same, indexed.lookup_row member'] at keys
  exact List.inj_on_of_nodup_map nodup member member' (Option.some.inj keys).symm

-- Rows rewritten in place, each keeping its identifier and its key.
theorem map (indexed : Indexes idx rows id key) (g : α → α)
    (kept : ∀ r ∈ rows, id (g r) = id r ∧ key (g r) = key r) : Indexes idx (rows.map g) id key := by
  intro i k
  rw [indexed i k]
  constructor
  · rintro ⟨r, member, rfl, rfl⟩
    exact ⟨g r, List.mem_map_of_mem member, (kept r member).1, (kept r member).2⟩
  · rintro ⟨r', member, rfl, rfl⟩
    obtain ⟨r, rMember, rfl⟩ := List.mem_map.mp member
    exact ⟨r, rMember, (kept r rMember).1.symm, (kept r rMember).2.symm⟩

-- A new row whose identifier no row has, indexed under it.
theorem add (indexed : Indexes idx rows id key) {r : α} (fresh : ∀ x ∈ rows, id x ≠ id r) :
    Indexes (setKey idx (id r) (key r)) (rows ++ [r]) id key := by
  intro i k
  rw [lookup_setKey]
  by_cases own : i = id r
  · rw [if_pos own, Option.some.injEq]
    constructor
    · rintro rfl
      exact ⟨r, List.mem_append_right _ (List.mem_singleton_self r), own.symm, rfl⟩
    · rintro ⟨x, member, named, rfl⟩
      rcases List.mem_append.mp member with old | new
      · exact absurd (named.trans own) (fresh x old)
      · rw [List.mem_singleton.mp new]
  · rw [if_neg own, indexed i k]
    constructor
    · rintro ⟨x, member, named, keyed⟩
      exact ⟨x, List.mem_append_left _ member, named, keyed⟩
    · rintro ⟨x, member, named, keyed⟩
      rcases List.mem_append.mp member with old | new
      · exact ⟨x, old, named, keyed⟩
      · rw [List.mem_singleton.mp new] at named
        exact absurd named.symm own

-- A row appended to rows whose identifiers stay distinct has an identifier no row had.
theorem fresh_of_nodup {r : α} (distinct : ((rows ++ [r]).map id).Nodup) : ∀ x ∈ rows, id x ≠ id r := by
  rw [List.map_append, List.map_singleton] at distinct
  exact fun x member => (List.nodup_append.mp distinct).2.2 _ (List.mem_map_of_mem member) _
    (List.mem_singleton_self _)

-- A row removed by its key, with its identifier.
theorem remove (indexed : Indexes idx rows id key) (nodup : (rows.map key).Nodup) {r : α}
    (member : r ∈ rows) : Indexes (dropKey idx (id r)) (rows.filter (key · != key r)) id key := by
  intro i k
  rw [lookup_dropKey]
  by_cases own : i = id r
  · rw [if_pos own]
    constructor
    · intro wrong
      cases wrong
    · rintro ⟨x, kept, named, _⟩
      obtain ⟨xMember, other⟩ := List.mem_filter.mp kept
      rw [indexed.eq_of_id nodup xMember member (named.trans own)] at other
      simp at other
  · rw [if_neg own, indexed i k]
    constructor
    · rintro ⟨x, xMember, named, keyed⟩
      refine ⟨x, List.mem_filter.mpr ⟨xMember, bne_iff_ne.mpr fun sameKey => own ?_⟩, named, keyed⟩
      rw [← named, List.inj_on_of_nodup_map nodup xMember member sameKey]
    · rintro ⟨x, kept, named, keyed⟩
      exact ⟨x, List.mem_of_mem_filter kept, named, keyed⟩

-- Looked up through the index, an identifier finds the stored row that carries it.
theorem find_eq_some [Inhabited α] (indexed : Indexes idx rows id key) (nodup : (rows.map key).Nodup)
    {i : String} {r : α} :
    ((idx.lookup i).map fun k => (rows.find? fun x => key x == k).getD default) = some r ↔
      r ∈ rows ∧ id r = i := by
  constructor
  · intro found
    obtain ⟨k, indexedAt, rfl⟩ := Option.map_eq_some_iff.mp found
    obtain ⟨x, xMember, rfl, keyed⟩ := (indexed i k).mp indexedAt
    rw [(find_key_eq_some key nodup).mpr ⟨xMember, keyed⟩, Option.getD_some]
    exact ⟨xMember, rfl⟩
  · rintro ⟨member, rfl⟩
    rw [indexed.lookup_row member, Option.map_some, (find_key_eq_some key nodup).mpr ⟨member, rfl⟩]
    rfl

end Indexes

namespace Books

-- Each identifier index of the books is exactly the map from its rows' identifiers to their keys.
structure Indexed (b : Books) : Prop where
  accounts : Indexes b.accountIDs b.accounts Account.id Account.key
  entries : Indexes b.entryIDs b.entries Entry.id Entry.key

variable {b b' : Books}

theorem accountById?_eq_some (sound : b.Wellformed) (indexed : b.Indexed) {i : String} {a : Account} :
    b.accountById? i = some a ↔ a ∈ b.accounts ∧ a.id = i :=
  indexed.accounts.find_eq_some sound.accountKeys

theorem entryById?_eq_some (sound : b.Wellformed) (indexed : b.Indexed) {i : String} {e : Entry} :
    b.entryById? i = some e ↔ e ∈ b.entries ∧ e.id = i :=
  indexed.entries.find_eq_some sound.entryKeys

-- Rewriting a stored entry in place under its key, keeping its identifier, keeps the
-- identifiers of the entries.
theorem replaceEntry_ids (nodup : (b.entries.map Entry.key).Nodup) {e0 e : Entry}
    (member : e0 ∈ b.entries) (key : e.key = e0.key) (id : e.id = e0.id) :
    (b.replaceEntry e).entries.map Entry.id = b.entries.map Entry.id := by
  rw [replaceEntry_entries, List.map_map]
  refine List.map_congr_left fun x xMember => ?_
  by_cases same : x.key = e.key
  · obtain rfl : x = e0 := List.inj_on_of_nodup_map nodup xMember member (same.trans key)
    simp [same, id]
  · simp [same]

theorem removeEntry_ids (k : String) :
    ((b.removeEntry k).entries.map Entry.id).Sublist (b.entries.map Entry.id) := by
  rw [removeEntry_entries]
  exact List.filter_sublist.map _

namespace Indexed

theorem notePosting (indexed : b.Indexed) (k : String) (s : EntryStatus) : (b.notePosting k s).Indexed := by
  constructor
  · rw [notePosting_accountIDs, notePosting_accounts]
    exact indexed.accounts
  · rw [notePosting_entryIDs, notePosting_entries]
    exact indexed.entries

-- An account whose identifier no account has, indexed under it.
theorem opened (indexed : b.Indexed) {a : Account} (fresh : (b.accountById? a.id).isNone) :
    ({ b with accounts := b.accounts ++ [a], accountIDs := setKey b.accountIDs a.id a.key } : Books).Indexed := by
  refine ⟨indexed.accounts.add fun x member same => ?_, indexed.entries⟩
  have indexedAt := indexed.accounts.lookup_row member
  rw [same] at indexedAt
  simp [accountById?, indexedAt] at fresh

-- An entry rewritten in place, keeping its key and its identifier.
theorem replaceEntry (nodup : (b.entries.map Entry.key).Nodup) (indexed : b.Indexed) {e0 e : Entry}
    (member : e0 ∈ b.entries) (key : e.key = e0.key) (id : e.id = e0.id) : (b.replaceEntry e).Indexed := by
  unfold Books.replaceEntry
  refine Indexed.notePosting ?_ _ _
  refine ⟨indexed.accounts, indexed.entries.map _ fun x xMember => ?_⟩
  by_cases same : x.key = e.key
  · obtain rfl : x = e0 := List.inj_on_of_nodup_map nodup xMember member (same.trans key)
    simp [same, id]
  · simp [same]

theorem removeEntry (nodup : (b.entries.map Entry.key).Nodup) (indexed : b.Indexed) {e0 : Entry}
    (member : e0 ∈ b.entries) : (b.removeEntry e0.key).Indexed := by
  have stored : b.entry? e0.key = some e0 := (entry?_eq_some nodup).mpr ⟨member, rfl⟩
  refine ⟨indexed.accounts, ?_⟩
  rw [removeEntry_entryIDs, stored, removeEntry_entries]
  exact indexed.entries.remove nodup member

theorem addEntry (indexed : b.Indexed) {e : Entry} (added : b.addEntry e = .ok b')
    (fresh : ∀ x ∈ b.entries, x.id ≠ e.id) : b'.Indexed := by
  rw [(addEntry_eq_ok.mp added).2]
  refine Indexed.notePosting ?_ _ _
  exact ⟨indexed.accounts, indexed.entries.add fresh⟩

theorem applyWrites (indexed : b.Indexed) (writes : List (String × Decimal)) (user : String)
    (now : Timestamp) : (b.applyWrites writes user now).Indexed := by
  rw [applyWrites_eq]
  exact ⟨indexed.accounts.map _ fun a _ => ⟨by simp, by simp [Account.key]⟩, indexed.entries⟩

-- Every change of the books keeps the identifier indexes, provided the entries after it carry
-- distinct identifiers: the store checks the identifier of a new account, not of a new entry.
theorem change {c : Ctx} (sound : b.Wellformed) (indexed : b.Indexed) (changed : Books.Change c b b')
    (distinct : (b'.entries.map Entry.id).Nodup) : b'.Indexed := by
  cases changed with
  | unchanged => exact indexed
  | opened a _ fresh _ => exact indexed.opened fresh
  | redescribed kept =>
    obtain ⟨g, keeps, rfl⟩ := kept
    exact ⟨indexed.accounts.map g fun x _ => ⟨(keeps x).id, (keeps x).key⟩, indexed.entries⟩
  | drafted pfx e _ _ _ _ _ _ => exact ⟨indexed.accounts, indexed.entries.add (Indexes.fresh_of_nodup distinct)⟩
  | numbered pfx _ => exact ⟨indexed.accounts, indexed.entries⟩
  | redrafted e0 e member _ same => exact indexed.replaceEntry sound.entryKeys member same.key same.id
  | discarded e0 member _ => exact indexed.removeEntry sound.entryKeys member
  | posted e0 e writes member _ posting =>
    obtain ⟨lines, debit, credit, shape, _⟩ := postLines_entry posting
    refine (indexed.applyWrites _ _ _).replaceEntry (by rw [applyWrites_entries]; exact sound.entryKeys)
      (by rw [applyWrites_entries]; exact member) (by rw [shape]; rfl) (by rw [shape])
  | reversed src comp id writes b₁ member _ _ _ posting stored =>
    obtain ⟨entries, free⟩ := addEntry_after_writes stored
    have keys : (b₁.entries.map Entry.key).Nodup := by
      rw [entries]
      exact nodup_map_append_singleton Entry.key sound.entryKeys free
    have held : src ∈ b₁.entries := by
      rw [entries]
      exact List.mem_append_left _ member
    -- the source, marked reversed, keeps its key and identifier, so the compensation's identifier
    -- is the new one
    rw [replaceEntry_ids keys held (e := { src with
      status := .reversed, reversedBy := comp.number, audit := src.audit.touch c.user c.now }) rfl rfl,
      entries] at distinct
    have numbered : (b.nextNumber c.tenant "RV").2.Indexed := ⟨indexed.accounts, indexed.entries⟩
    have fresh : ∀ x ∈ ((b.nextNumber c.tenant "RV").2.applyWrites writes c.user c.now).entries, x.id ≠ comp.id := by
      rw [applyWrites_entries, nextNumber_entries]
      exact Indexes.fresh_of_nodup distinct
    exact ((numbered.applyWrites _ _ _).addEntry stored fresh).replaceEntry keys held rfl rfl

end Indexed

end Books

-- The identifiers in a list were all drawn from `ids`, at or below the counter, each once.
def IssuedOnce (ids : Nat → String) (issued : Nat) (l : List String) : Prop :=
  l.Nodup ∧ ∀ i ∈ l, ∃ k ≤ issued, i = ids k

namespace IssuedOnce

variable {ids : Nat → String} {n n' : Nat} {l l' : List String}

-- Dropping identifiers, or counting further, keeps them issued once.
theorem sublist (once : IssuedOnce ids n l) (kept : l'.Sublist l) (more : n ≤ n') :
    IssuedOnce ids n' l' := by
  refine ⟨once.1.sublist kept, fun i member => ?_⟩
  obtain ⟨k, below, named⟩ := once.2 i (kept.subset member)
  exact ⟨k, below.trans more, named⟩

-- From an injective generator, the next identifier is none of those drawn so far.
theorem fresh (once : IssuedOnce ids n l) (unique : Function.Injective ids) (more : n + 1 ≤ n') :
    IssuedOnce ids n' (l ++ [ids (n + 1)]) := by
  refine ⟨List.nodup_append.mpr ⟨once.1, List.nodup_singleton _, ?_⟩, fun i member => ?_⟩
  · intro i member j next same
    rw [List.mem_singleton.mp next] at same
    obtain ⟨k, below, rfl⟩ := once.2 i member
    have := unique same
    omega
  · rcases List.mem_append.mp member with old | new
    · obtain ⟨k, below, named⟩ := once.2 i old
      exact ⟨k, by omega, named⟩
    · exact ⟨n + 1, more, List.mem_singleton.mp new⟩

end IssuedOnce

namespace Office

variable {o : Office} {c : Ctx}

-- A draft that is stored takes the next identifier, and the counter moves to it.
theorem createDraft_id {req : EntryRequest} {e : Entry} (drafted : (o.createDraft c req).1 = .ok e) :
    e.id = o.ids (o.issued + 1) ∧ (o.createDraft c req).2.issued = o.issued + 1 := by
  obtain ⟨lines, debit, credit, -, rfl, -, -, -, issued⟩ := createDraft_eq_ok drafted
  exact ⟨rfl, issued⟩

theorem registerAccount_entries {req : AccountRequest} :
    (o.registerAccount c req).2.books.entries = o.books.entries := by
  cases opened : (o.registerAccount c req).1 with
  | error f => rw [(registerAccount_error opened).1]
  | ok a => rw [(registerAccount_ok opened).2.2.2.2.2.2.1]

end Office

namespace Call

variable {o : Office}

-- What a call does to the identifiers of the entries: it keeps some of them, or it keeps them
-- all and adds the one after the counter, moving the counter at least to it. Rewriting an entry
-- keeps its identifier; a reversal adds the compensation's.
theorem perform_entryIds (sound : o.books.Wellformed) (call : Call) :
    ((call.perform o).2.books.entries.map Entry.id).Sublist (o.books.entries.map Entry.id) ∨
      ((call.perform o).2.books.entries.map Entry.id =
          o.books.entries.map Entry.id ++ [o.ids (o.issued + 1)] ∧
        o.issued + 1 ≤ (call.perform o).2.issued) := by
  cases call with
  | registerAccount c req =>
    exact .inl (by rw [perform, settle_snd, Office.registerAccount_entries])
  | updateAccount c code patch =>
    left
    simp only [perform, settle_snd]
    cases changed : (o.updateAccount c code patch).1 with
    | error f => rw [Office.updateAccount_error changed]
    | ok a =>
      obtain ⟨books, ⟨_, _, rfl⟩, same⟩ := Office.updateAccount_ok changed
      rw [same]
  | deactivateAccount c code =>
    left
    simp only [perform]
    cases done : (o.deactivateAccount c code).1 with
    | error f => rw [Office.deactivateAccount_error done]
    | ok u =>
      obtain ⟨books, ⟨_, _, rfl⟩, same⟩ := Office.deactivateAccount_ok done
      rw [same]
  | createDraft c req =>
    simp only [perform, settle_snd]
    cases drafted : (o.createDraft c req).1 with
    | error f =>
      left
      rcases Office.createDraft_error drafted with same | ⟨_, _, same⟩
      · rw [same]
      · rw [same, Books.nextNumber_entries]
    | ok e =>
      obtain ⟨_, _, _, _, _, _, _, books, _⟩ := Office.createDraft_ok drafted
      obtain ⟨id, issued⟩ := Office.createDraft_id drafted
      right
      refine ⟨?_, issued.ge⟩
      rw [books, List.map_append, List.map_singleton, id]
  | updateDraft c number req =>
    left
    simp only [perform, settle_snd]
    cases updated : (o.updateDraft c number req).1 with
    | error f => rw [Office.updateDraft_error updated]
    | ok e =>
      obtain ⟨e0, member, _, _, _, _, _, shape, same⟩ := Office.updateDraft_ok updated
      rw [same, Books.replaceEntry_ids (e := e) sound.entryKeys member (by rw [shape]; rfl) (by rw [shape])]
  | discardDraft c number =>
    left
    simp only [perform]
    cases done : (o.discardDraft c number).1 with
    | error f => rw [Office.discardDraft_error done]
    | ok u =>
      obtain ⟨e0, _, _, _, same⟩ := Office.discardDraft_ok done
      rw [same]
      exact Books.removeEntry_ids _
  | postEntry c number =>
    left
    simp only [perform, settle_snd]
    cases posted : (o.postEntry c number).1 with
    | error f => rw [Office.postEntry_error posted]
    | ok e =>
      obtain ⟨e0, member, _, _, writes, posting, books⟩ := Office.postEntry_ok posted
      obtain ⟨lines, debit, credit, shape, _⟩ := postLines_entry posting
      rw [books, Books.replaceEntry_ids (e := e) (by rw [Books.applyWrites_entries]; exact sound.entryKeys)
        (by rw [Books.applyWrites_entries]; exact member) (by rw [shape]; rfl) (by rw [shape]),
        Books.applyWrites_entries]
  | reverseEntry c number =>
    simp only [perform, settle_snd]
    cases reversed : (o.reverseEntry c number).1 with
    | error f =>
      left
      rw [(Office.reverseEntry_error reversed).1, Books.nextNumber_entries]
    | ok pair =>
      obtain ⟨src', comp⟩ := pair
      obtain ⟨src, writes, b', found, _, _, posting, stored, rfl, books, issued⟩ :=
        Office.reverseEntry_eq_ok reversed
      obtain ⟨member, _, _⟩ := Office.entryByNumber_eq_ok found
      obtain ⟨entries, fresh⟩ := Books.addEntry_after_writes stored
      -- the compensation carries the identifier drawn for it
      have id : comp.id = o.ids (o.issued + 1) := by
        obtain ⟨_, _, _, rfl, _⟩ := postLines_entry posting
        rfl
      have keys : (b'.entries.map Entry.key).Nodup := by
        rw [entries]
        exact nodup_map_append_singleton Entry.key sound.entryKeys fresh
      have held : src ∈ b'.entries := by
        rw [entries]
        exact List.mem_append_left _ member
      right
      refine ⟨?_, by omega⟩
      -- the source, marked reversed, keeps its key and identifier
      rw [books, Books.replaceEntry_ids keys held (e := { src with
          status := .reversed, reversedBy := comp.number, audit := src.audit.touch c.user c.now }) rfl rfl,
        entries, List.map_append, List.map_singleton, id]

end Call

-- Every stored entry carries an identifier drawn at or below the counter, no two the same.
def Office.EntriesIssued (o : Office) : Prop := IssuedOnce o.ids o.issued (o.books.entries.map Entry.id)

-- From an injective generator, every call keeps the entries' identifiers drawn once: what it keeps
-- was drawn before, and what it adds is the identifier after the counter.
theorem Office.EntriesIssued.perform {o : Office} (unique : Function.Injective o.ids)
    (sound : o.books.Wellformed) (issued : o.EntriesIssued) (call : Call) : (call.perform o).2.EntriesIssued := by
  have more := call.perform_issued (o := o)
  unfold Office.EntriesIssued
  rw [call.perform_generator]
  rcases call.perform_entryIds sound with kept | ⟨added, next⟩
  · exact issued.sublist kept more
  · rw [added]
    exact issued.fresh unique next

-- Over a session drawing from an injective generator, the books stay well formed and indexed, and
-- the entries' identifiers stay drawn once.
theorem Office.run_indexed (pageSize : Nat) (ids : Nat → String) (unique : Function.Injective ids)
    (calls : List Call) :
    ((Office.startWith pageSize ids).run calls).books.Wellformed ∧
      ((Office.startWith pageSize ids).run calls).EntriesIssued ∧
      ((Office.startWith pageSize ids).run calls).books.Indexed := by
  have holds := Office.run_invariant
    (fun o => o.ids = ids ∧ o.books.Wellformed ∧ o.EntriesIssued ∧ o.books.Indexed)
    (fun o call ⟨generator, sound, issued, indexed⟩ => by
      have changed := Call.perform_change call o
      have issued' := issued.perform (generator ▸ unique) sound call
      exact ⟨call.perform_generator.trans generator, sound.change changed, issued',
        indexed.change sound changed issued'.1⟩)
    (o := Office.startWith pageSize ids)
    ⟨rfl, Office.start_wellformed pageSize, ⟨List.nodup_nil, by simp [Office.startWith]⟩, ⟨Indexes.empty, Indexes.empty⟩⟩ calls
  exact holds.2

-- The store's indexes are consistent over every session whose identifiers come from an injective
-- generator. An account is found under a key exactly when the key is its own; the account
-- identifier index maps exactly each account's identifier to its key, so a lookup by identifier
-- finds exactly the account with it. The same holds of entries, so a lookup by number and a
-- lookup by identifier find the same entry. The posting order lists each key once, and exactly
-- the keys of the entries out of draft, under distinct numbers none above the last one given.
theorem store_indexes_consistent (pageSize : Nat) (ids : Nat → String) (unique : Function.Injective ids)
    (calls : List Call) :
    let b := ((Office.startWith pageSize ids).run calls).books
    (∀ k a, b.account? k = some a ↔ a ∈ b.accounts ∧ a.key = k) ∧
      (∀ i k, b.accountIDs.lookup i = some k ↔ ∃ a ∈ b.accounts, a.id = i ∧ a.key = k) ∧
      (∀ i a, b.accountById? i = some a ↔ a ∈ b.accounts ∧ a.id = i) ∧
      (∀ k e, b.entry? k = some e ↔ e ∈ b.entries ∧ e.key = k) ∧
      (∀ i k, b.entryIDs.lookup i = some k ↔ ∃ e ∈ b.entries, e.id = i ∧ e.key = k) ∧
      (∀ i e, b.entryById? i = some e ↔ e ∈ b.entries ∧ e.id = i) ∧
      b.postings.Nodup ∧ (∀ k, k ∈ b.postings ↔ ∃ e ∈ b.entries, e.key = k ∧ e.status ≠ .draft) ∧
      (b.postOrder.map (·.2)).Nodup ∧ ∀ p ∈ b.postOrder, p.2 ≤ b.postSeq := by
  intro b
  obtain ⟨sound, _, indexed⟩ := Office.run_indexed pageSize ids unique calls
  have holds := Office.run_replays (o := Office.startWith pageSize ids) (Office.start_wellformed pageSize)
    (Office.start_replays pageSize) calls
  have ordered : b.Numbered := Office.run_numbered Books.Numbered.empty calls
  refine ⟨fun k a => Books.account?_eq_some sound.accountKeys, indexed.accounts,
    fun i a => Books.accountById?_eq_some sound indexed, fun k e => Books.entry?_eq_some sound.entryKeys,
    indexed.entries, fun i e => Books.entryById?_eq_some sound indexed, holds.distinct,
    fun k => ⟨fun listed => ?_, ?_⟩, ordered.increasing.imp Nat.ne_of_lt, ordered.bounded⟩
  · obtain ⟨e, member, key⟩ := holds.keyed listed
    exact ⟨e, member, key, (holds.listed e member).mpr (key ▸ listed)⟩
  · rintro ⟨e, member, rfl, live⟩
    exact (holds.listed e member).mp live

-- Two drafts, the first discarded and the second posted: the posted entry is found alike by its
-- number and by its identifier, and it is all the posting order lists.
theorem posted_draft_found_by_number_and_id :
    let calls : List Call :=
      [.registerAccount ⟨"T1", "u1", Timestamp.zero⟩ { code := "1000", name := "Cash", type := "ASSET" },
       .registerAccount ⟨"T1", "u1", Timestamp.zero⟩ { code := "4000", name := "Sales", type := "REVENUE" },
       .createDraft ⟨"T1", "u1", Timestamp.zero⟩
         { lines := [{ code := "1000", debit := ⟨100, 0⟩ }, { code := "4000", credit := ⟨100, 0⟩ }] },
       .createDraft ⟨"T1", "u1", Timestamp.zero⟩
         { lines := [{ code := "1000", debit := ⟨50, 0⟩ }, { code := "4000", credit := ⟨50, 0⟩ }] },
       .discardDraft ⟨"T1", "u1", Timestamp.zero⟩ "JE-000001",
       .postEntry ⟨"T1", "u1", Timestamp.zero⟩ "JE-000002"]
    let b := ((Office.startWith 20 Office.idNumbered).run calls).books
    let e := b.entries.headD default
    b.entry? e.key = some e ∧ b.entryById? e.id = some e ∧ (∀ k, k ∈ b.postings ↔ k = e.key) := by
  intro calls b e
  obtain ⟨_, _, _, byKey, _, byId, _, listed, _, _⟩ :=
    store_indexes_consistent 20 Office.idNumbered idNumbered_injective calls
  have only : b.entries = [e] := by decide +kernel
  have live : e.status ≠ .draft := by decide +kernel
  have member : e ∈ b.entries := by
    rw [only]
    exact List.mem_singleton_self e
  refine ⟨(byKey _ _).mpr ⟨member, rfl⟩, (byId _ _).mpr ⟨member, rfl⟩, fun k => ?_⟩
  rw [listed, only]
  constructor
  · rintro ⟨x, member, rfl, _⟩
    rw [List.mem_singleton.mp member]
  · rintro rfl
    exact ⟨e, List.mem_singleton_self e, rfl, live⟩

end Ledger
