import Mathlib.Data.List.Nodup
import Mathlib.Data.List.Sort
import Ledger.Office.Journal

-- The books as keyed lists. Once the keys of a list are distinct, a key names one member, a
-- change by key touches that member alone, and each write of the store is a list operation
-- on one field of the books; the lemmas here say which field and how.

namespace Ledger

-- A computation that may fail succeeds through a bind when both of its parts do.
theorem Except.bind_eq_ok {ε α β : Type} {x : Except ε α} {f : α → Except ε β} {r : β} :
    x >>= f = .ok r ↔ ∃ a, x = .ok a ∧ f a = .ok r := by
  cases x <;> simp [bind, Except.bind]

section Keyed

variable {α : Type} (key : α → String)

theorem find_key_eq_some {l : List α} (nodup : (l.map key).Nodup) {k : String} {a : α} :
    l.find? (fun x => key x == k) = some a ↔ a ∈ l ∧ key a = k := by
  constructor
  · intro found
    exact ⟨List.mem_of_find?_eq_some found, by simpa using List.find?_some found⟩
  · rintro ⟨member, rfl⟩
    cases found : l.find? (fun x => key x == key a) with
    | none => simp [List.find?_eq_none] at found; exact absurd rfl (found a member)
    | some b =>
      have same : key b = key a := by simpa using List.find?_some found
      rw [List.inj_on_of_nodup_map nodup (List.mem_of_find?_eq_some found) member same]

theorem find_key_eq_none {l : List α} {k : String} :
    l.find? (fun x => key x == k) = none ↔ ∀ a ∈ l, key a ≠ k := by
  simp [List.find?_eq_none]

-- A member of a list with distinct keys splits it, and no other member carries its key.
theorem split_at_key {l : List α} (nodup : (l.map key).Nodup) {a : α} (member : a ∈ l) :
    ∃ pre post, l = pre ++ a :: post ∧ ∀ x ∈ pre ++ post, key x ≠ key a := by
  obtain ⟨pre, post, rfl⟩ := List.append_of_mem member
  refine ⟨pre, post, rfl, ?_⟩
  have moved := (List.perm_middle.map key).nodup_iff.mp (by simpa using nodup)
  rw [List.map_cons, List.nodup_cons] at moved
  intro x other same
  exact moved.1 (List.mem_map.mpr ⟨x, other, same⟩)

theorem map_replace_split {pre post : List α} {a b : α} (same : key b = key a)
    (others : ∀ x ∈ pre ++ post, key x ≠ key a) :
    (pre ++ a :: post).map (fun x => if key x == key b then b else x) = pre ++ b :: post := by
  have keep : ∀ l : List α, (∀ x ∈ l, key x ≠ key a) →
      l.map (fun x => if key x == key b then b else x) = l := by
    intro l away
    calc l.map (fun x => if key x == key b then b else x) = l.map id :=
          List.map_congr_left fun x member => by simp [same, away x member]
      _ = l := List.map_id l
  rw [List.map_append, List.map_cons, keep pre (fun x m => others x (List.mem_append_left _ m)),
    keep post (fun x m => others x (List.mem_append_right _ m))]
  simp [same]

theorem filter_key_split {pre post : List α} {a : α} (others : ∀ x ∈ pre ++ post, key x ≠ key a) :
    (pre ++ a :: post).filter (fun x => key x != key a) = pre ++ post := by
  rw [List.filter_append, List.filter_cons_of_neg (by simp), List.filter_eq_self.mpr,
    List.filter_eq_self.mpr]
  · intro x member; simpa using others x (List.mem_append_right _ member)
  · intro x member; simpa using others x (List.mem_append_left _ member)

theorem nodup_map_append_singleton {l : List α} {a : α} (nodup : (l.map key).Nodup)
    (fresh : ∀ x ∈ l, key x ≠ key a) : ((l ++ [a]).map key).Nodup := by
  rw [List.map_append, List.nodup_append]
  refine ⟨nodup, List.nodup_singleton _, ?_⟩
  intro k member k' other
  obtain ⟨x, xMember, rfl⟩ := List.mem_map.mp member
  rw [List.map_singleton, List.mem_singleton] at other
  rw [other]
  exact fresh x xMember

-- With distinct keys, one member at most passes a test that fixes the key.
theorem countP_le_one_of_key {l : List α} (nodup : (l.map key).Nodup) {p : α → Bool} {k : String}
    (keyed : ∀ x ∈ l, p x = true → key x = k) : l.countP p ≤ 1 := by
  have distinct : ((l.filter p).map key).Nodup := nodup.sublist (List.filter_sublist.map key)
  have same : (l.filter p).map key = List.replicate ((l.filter p).map key).length k := by
    refine List.eq_replicate_iff.mpr ⟨rfl, fun k' member => ?_⟩
    obtain ⟨x, xMember, rfl⟩ := List.mem_map.mp member
    obtain ⟨inList, passes⟩ := List.mem_filter.mp xMember
    exact keyed x inList passes
  rw [same, List.nodup_replicate, List.length_map] at distinct
  rw [List.countP_eq_length_filter]
  exact distinct

end Keyed

section Sorted

-- Sorting is insertion sort by the relation the comparison decides, so the library's facts
-- about insertion sort carry over.
variable {α : Type} (le : α → α → Bool)

theorem orderedInsertBy_eq (a : α) (l : List α) :
    orderedInsertBy le a l = l.orderedInsert (fun x y => le x y = true) a := by
  induction l with
  | nil => rfl
  | cons b l ih => simp [orderedInsertBy, ih]

theorem sortBy_eq_insertionSort (l : List α) :
    sortBy le l = l.insertionSort fun x y => le x y = true := by
  induction l with
  | nil => rfl
  | cons a l ih => simp [sortBy, ih, orderedInsertBy_eq]

theorem sortBy_perm (l : List α) : (sortBy le l).Perm l := by
  rw [sortBy_eq_insertionSort]
  exact List.perm_insertionSort _ l

@[simp] theorem mem_sortBy {l : List α} {x : α} : x ∈ sortBy le l ↔ x ∈ l :=
  (sortBy_perm le l).mem_iff

theorem sortBy_pairwise (trans : ∀ x y z, le x y = true → le y z = true → le x z = true)
    (total : ∀ x y, le x y = true ∨ le y x = true) (l : List α) :
    (sortBy le l).Pairwise fun x y => le x y = true := by
  have : Std.Total fun x y => le x y = true := ⟨total⟩
  have : IsTrans α fun x y => le x y = true := ⟨trans⟩
  rw [sortBy_eq_insertionSort]
  exact List.pairwise_insertionSort _ l

-- A sorted list is left as it is.
theorem sortBy_of_pairwise {l : List α} (sorted : l.Pairwise fun x y => le x y = true) :
    sortBy le l = l := by
  rw [sortBy_eq_insertionSort]
  exact sorted.insertionSort_eq

end Sorted

section Bindings

-- A map beside the rows is a list of bindings: a read finds the first binding of its key, and a
-- write of a key drops the key's bindings before adding its new one.
variable {α : Type} (m : List (String × α)) (k j : String) (v : α)

theorem lookup_cons_of_ne {v' : α} {k' : String} (other : j ≠ k') :
    ((k', v') :: m).lookup j = m.lookup j := by
  simp [List.lookup_cons, beq_eq_false_iff_ne.mpr other]

theorem lookup_filter_ne : (m.filter (·.1 != k)).lookup j = if j = k then none else m.lookup j := by
  induction m with
  | nil => simp
  | cons p m ih =>
    obtain ⟨k', v'⟩ := p
    by_cases dropped : k' = k
    · subst dropped
      rw [List.filter_cons_of_neg (by simp), ih]
      by_cases asked : j = k'
      · simp [asked]
      · simp [asked, lookup_cons_of_ne m j asked]
    · rw [List.filter_cons_of_pos (by simpa using dropped)]
      by_cases asked : j = k'
      · subst asked
        simp [dropped]
      · rw [lookup_cons_of_ne _ j asked, lookup_cons_of_ne _ j asked, ih]

@[simp] theorem lookup_setKey : (setKey m k v).lookup j = if j = k then some v else m.lookup j := by
  rw [setKey, List.lookup_append, lookup_filter_ne]
  by_cases asked : j = k
  · simp [asked]
  · simp [asked, lookup_cons_of_ne [] j asked]

@[simp] theorem lookup_dropKey : (dropKey m k).lookup j = if j = k then none else m.lookup j :=
  lookup_filter_ne m k j

theorem lookup_isSome_iff_mem : (m.lookup k).isSome ↔ k ∈ m.map Prod.fst := by
  induction m with
  | nil => simp
  | cons p m ih =>
    obtain ⟨k', v'⟩ := p
    by_cases same : k = k'
    · subst same
      simp
    · rw [lookup_cons_of_ne m k same, ih]
      simp [same]

theorem map_fst_setKey : (setKey m k v).map Prod.fst = (m.map Prod.fst).filter (· != k) ++ [k] := by
  simp [setKey, List.filter_map, Function.comp_def]

theorem map_fst_dropKey : (dropKey m k).map Prod.fst = (m.map Prod.fst).filter (· != k) := by
  simp [dropKey, List.filter_map, Function.comp_def]

end Bindings

theorem accountKey_inj {tenant code code' : String} :
    accountKey tenant code = accountKey tenant code' ↔ code = code' := by
  simp [accountKey]

namespace Audit

@[simp] theorem touch_touch (a : Audit) (user user' : String) (now now' : Timestamp) :
    (a.touch user now).touch user' now' = a.touch user' now' := rfl

end Audit

namespace Books

variable {b : Books}

theorem account?_some {k : String} {a : Account} (found : b.account? k = some a) :
    a ∈ b.accounts ∧ a.key = k :=
  ⟨List.mem_of_find?_eq_some found, by simpa using List.find?_some found⟩

theorem account?_eq_some (nodup : (b.accounts.map Account.key).Nodup) {k : String}
    {a : Account} : b.account? k = some a ↔ a ∈ b.accounts ∧ a.key = k :=
  find_key_eq_some Account.key nodup

theorem account?_eq_none {k : String} : b.account? k = none ↔ ∀ a ∈ b.accounts, a.key ≠ k :=
  find_key_eq_none Account.key

theorem entry?_some {k : String} {e : Entry} (found : b.entry? k = some e) :
    e ∈ b.entries ∧ e.key = k :=
  ⟨List.mem_of_find?_eq_some found, by simpa using List.find?_some found⟩

theorem entry?_eq_none {k : String} : b.entry? k = none ↔ ∀ e ∈ b.entries, e.key ≠ k :=
  find_key_eq_none Entry.key

@[simp] theorem notePosting_accounts (k : String) (s : EntryStatus) :
    (b.notePosting k s).accounts = b.accounts := by
  unfold notePosting; split <;> rfl

@[simp] theorem notePosting_entries (k : String) (s : EntryStatus) :
    (b.notePosting k s).entries = b.entries := by
  unfold notePosting; split <;> rfl

@[simp] theorem notePosting_sequences (k : String) (s : EntryStatus) :
    (b.notePosting k s).sequences = b.sequences := by
  unfold notePosting; split <;> rfl

@[simp] theorem notePosting_accountIDs (k : String) (s : EntryStatus) :
    (b.notePosting k s).accountIDs = b.accountIDs := by
  unfold notePosting; split <;> rfl

@[simp] theorem notePosting_entryIDs (k : String) (s : EntryStatus) :
    (b.notePosting k s).entryIDs = b.entryIDs := by
  unfold notePosting; split <;> rfl

theorem lookup_postOrder_isSome {k : String} : (b.postOrder.lookup k).isSome ↔ k ∈ b.postings :=
  lookup_isSome_iff_mem b.postOrder k

theorem notePosting_postings (k : String) (s : EntryStatus) :
    (b.notePosting k s).postings =
      if s = .draft ∨ k ∈ b.postings then b.postings else b.postings ++ [k] := by
  unfold notePosting
  by_cases draft : s = .draft <;> by_cases known : k ∈ b.postings
  · simp [draft]
  · simp [draft]
  · simp [draft, lookup_postOrder_isSome.mpr known, known]
  · have unnumbered : (b.postOrder.lookup k).isSome = false :=
      Bool.eq_false_iff.mpr fun numbered => known (lookup_postOrder_isSome.mp numbered)
    have kept : (b.postOrder.map Prod.fst).filter (· != k) = b.postOrder.map Prod.fst :=
      List.filter_eq_self.mpr fun x member => bne_iff_ne.mpr fun same => known (same ▸ member)
    rw [if_neg (by simp [draft, unnumbered]), if_neg (by simp [draft, known])]
    show (setKey b.postOrder k (b.postSeq + 1)).map Prod.fst = b.postOrder.map Prod.fst ++ [k]
    rw [map_fst_setKey, kept]

@[simp] theorem notePosting_draft (k : String) : b.notePosting k .draft = b := by
  simp [notePosting]

theorem addEntry_eq_ok {e : Entry} {b' : Books} :
    b.addEntry e = .ok b' ↔
      b.entry? e.key = none ∧
        b' = ({ b with entries := b.entries ++ [e], entryIDs := setKey b.entryIDs e.id e.key }).notePosting
          e.key e.status := by
  unfold addEntry
  cases found : b.entry? e.key <;> simp [eq_comm]

theorem addEntry_accounts {e : Entry} {b' : Books} (added : b.addEntry e = .ok b') :
    b'.accounts = b.accounts := by
  rw [(addEntry_eq_ok.mp added).2, notePosting_accounts]

theorem addEntry_entries {e : Entry} {b' : Books} (added : b.addEntry e = .ok b') :
    b'.entries = b.entries ++ [e] := by
  rw [(addEntry_eq_ok.mp added).2, notePosting_entries]

theorem addEntry_sequences {e : Entry} {b' : Books} (added : b.addEntry e = .ok b') :
    b'.sequences = b.sequences := by
  rw [(addEntry_eq_ok.mp added).2, notePosting_sequences]

theorem addEntry_eq_error {e : Entry} {f : Fault} (refused : b.addEntry e = .error f) :
    (b.entry? e.key).isSome := by
  unfold addEntry at refused
  cases found : b.entry? e.key <;> simp_all

@[simp] theorem replaceEntry_accounts (e : Entry) : (b.replaceEntry e).accounts = b.accounts := by
  simp [replaceEntry]

@[simp] theorem replaceEntry_entries (e : Entry) :
    (b.replaceEntry e).entries = b.entries.map fun x => if x.key == e.key then e else x := by
  simp [replaceEntry]

@[simp] theorem replaceEntry_sequences (e : Entry) : (b.replaceEntry e).sequences = b.sequences := by
  simp [replaceEntry]

-- A replacement stores the entry in the place of those with its key: the keys stay.
theorem replaceEntry_keys (e : Entry) :
    (b.replaceEntry e).entries.map Entry.key = b.entries.map Entry.key := by
  rw [replaceEntry_entries, List.map_map]
  refine List.map_congr_left fun x _ => ?_
  by_cases same : x.key = e.key <;> simp [same]

theorem mem_replaceEntry {e x : Entry} (member : x ∈ (b.replaceEntry e).entries) :
    x = e ∨ (x ∈ b.entries ∧ x.key ≠ e.key) := by
  rw [replaceEntry_entries] at member
  obtain ⟨y, yMember, rfl⟩ := List.mem_map.mp member
  by_cases same : y.key = e.key
  · simp [same]
  · simp [same, yMember]

theorem mem_replaceEntry_of_ne {e x : Entry} (member : x ∈ b.entries) (other : x.key ≠ e.key) :
    x ∈ (b.replaceEntry e).entries := by
  rw [replaceEntry_entries]
  exact List.mem_map.mpr ⟨x, member, by simp [other]⟩

theorem mem_replaceEntry_self {e x : Entry} (member : x ∈ b.entries) (same : x.key = e.key) :
    e ∈ (b.replaceEntry e).entries := by
  rw [replaceEntry_entries]
  exact List.mem_map.mpr ⟨x, member, by simp [same]⟩

-- Replacing a stored entry by one with its key changes it alone.
theorem replaceEntry_split (nodup : (b.entries.map Entry.key).Nodup) {e0 e : Entry}
    (member : e0 ∈ b.entries) (same : e.key = e0.key) :
    ∃ pre post, b.entries = pre ++ e0 :: post ∧ (b.replaceEntry e).entries = pre ++ e :: post ∧
      ∀ x ∈ pre ++ post, x.key ≠ e0.key := by
  obtain ⟨pre, post, split, others⟩ := split_at_key Entry.key nodup member
  refine ⟨pre, post, split, ?_, others⟩
  rw [replaceEntry_entries, split]
  exact map_replace_split Entry.key same others

@[simp] theorem removeEntry_accounts (k : String) : (b.removeEntry k).accounts = b.accounts := rfl

@[simp] theorem removeEntry_entries (k : String) :
    (b.removeEntry k).entries = b.entries.filter (·.key != k) := rfl

@[simp] theorem removeEntry_sequences (k : String) : (b.removeEntry k).sequences = b.sequences :=
  rfl

@[simp] theorem removeEntry_accountIDs (k : String) : (b.removeEntry k).accountIDs = b.accountIDs :=
  rfl

-- A removal unindexes the identifier of the entry stored under the key.
theorem removeEntry_entryIDs (k : String) :
    (b.removeEntry k).entryIDs = match b.entry? k with
      | some old => dropKey b.entryIDs old.id
      | none => b.entryIDs :=
  rfl

@[simp] theorem removeEntry_postOrder (k : String) : (b.removeEntry k).postOrder = dropKey b.postOrder k :=
  rfl

@[simp] theorem removeEntry_postings (k : String) :
    (b.removeEntry k).postings = b.postings.filter (· != k) :=
  map_fst_dropKey b.postOrder k

@[simp] theorem modifyAccount_accounts (k : String) (f : Account → Account) :
    (b.modifyAccount k f).accounts = b.accounts.map fun a => if a.key == k then f a else a := rfl

@[simp] theorem modifyAccount_entries (k : String) (f : Account → Account) :
    (b.modifyAccount k f).entries = b.entries := rfl

@[simp] theorem modifyAccount_postings (k : String) (f : Account → Account) :
    (b.modifyAccount k f).postings = b.postings := rfl

@[simp] theorem modifyAccount_sequences (k : String) (f : Account → Account) :
    (b.modifyAccount k f).sequences = b.sequences := rfl

@[simp] theorem modifyAccount_accountIDs (k : String) (f : Account → Account) :
    (b.modifyAccount k f).accountIDs = b.accountIDs := rfl

@[simp] theorem modifyAccount_entryIDs (k : String) (f : Account → Account) :
    (b.modifyAccount k f).entryIDs = b.entryIDs := rfl

@[simp] theorem modifyAccount_postOrder (k : String) (f : Account → Account) :
    (b.modifyAccount k f).postOrder = b.postOrder := rfl

theorem accountById?_isNone {id : String} : (b.accountById? id).isNone = (b.accountIDs.lookup id).isNone := by
  simp [accountById?]

theorem addAccount_eq_ok {a : Account} {b' : Books} :
    b.addAccount a = .ok b' ↔
      b.account? a.key = none ∧ (b.accountById? a.id).isNone ∧
        b' = { b with accounts := b.accounts ++ [a], accountIDs := setKey b.accountIDs a.id a.key } := by
  rw [accountById?_isNone]
  unfold addAccount
  cases found : b.account? a.key <;> cases byId : b.accountIDs.lookup a.id <;> simp [eq_comm]

end Books

-- The balance the last of a list of writes leaves under a key, when one names it.
def lastWrite : List (String × Decimal) → String → Option Decimal
  | [], _ => none
  | w :: rest, k => (lastWrite rest k).or (if w.1 = k then some w.2 else none)

theorem lastWrite_eq_none {writes : List (String × Decimal)} {k : String} :
    lastWrite writes k = none ↔ ∀ w ∈ writes, w.1 ≠ k := by
  induction writes with
  | nil => simp [lastWrite]
  | cons w rest ih =>
    by_cases named : w.1 = k <;> simp [lastWrite, named, ih]

-- An account after a run of balance writes: the last write to its key, if any, sets its
-- balance and stamps its last change.
def writeBalance (writes : List (String × Decimal)) (user : String) (now : Timestamp)
    (a : Account) : Account :=
  match lastWrite writes a.key with
  | none => a
  | some v => { a with balance := v, audit := a.audit.touch user now }

section WriteBalance

variable (writes : List (String × Decimal)) (user : String) (now : Timestamp) (a : Account)

@[simp] theorem writeBalance_id : (writeBalance writes user now a).id = a.id := by
  unfold writeBalance; split <;> rfl
@[simp] theorem writeBalance_tenant : (writeBalance writes user now a).tenant = a.tenant := by
  unfold writeBalance; split <;> rfl
@[simp] theorem writeBalance_code : (writeBalance writes user now a).code = a.code := by
  unfold writeBalance; split <;> rfl
@[simp] theorem writeBalance_side : (writeBalance writes user now a).side = a.side := by
  unfold writeBalance; split <;> rfl
@[simp] theorem writeBalance_opening : (writeBalance writes user now a).opening = a.opening := by
  unfold writeBalance; split <;> rfl
@[simp] theorem writeBalance_active : (writeBalance writes user now a).active = a.active := by
  unfold writeBalance; split <;> rfl
@[simp] theorem writeBalance_key : (writeBalance writes user now a).key = a.key := by
  simp [Account.key]

theorem writeBalance_of_none (unwritten : lastWrite writes a.key = none) :
    writeBalance writes user now a = a := by
  simp [writeBalance, unwritten]

theorem writeBalance_of_some {v : Decimal} (written : lastWrite writes a.key = some v) :
    (writeBalance writes user now a).balance = v := by
  simp [writeBalance, written]

end WriteBalance

namespace Books

variable {b : Books}

-- Balance writes act account by account: the last write to a key wins.
theorem applyWrites_accounts (writes : List (String × Decimal)) (user : String) (now : Timestamp) :
    (b.applyWrites writes user now).accounts = b.accounts.map (writeBalance writes user now) := by
  induction writes generalizing b with
  | nil =>
    simp only [applyWrites, List.foldl_nil]
    exact (List.map_id'' (fun a => by simp [writeBalance, lastWrite]) _).symm
  | cons w rest ih =>
    simp only [applyWrites, List.foldl_cons] at ih ⊢
    rw [ih, setBalance, modifyAccount_accounts, List.map_map]
    refine List.map_congr_left fun a _ => ?_
    obtain ⟨k, v⟩ := w
    by_cases named : k = a.key
    · subst named
      simp only [Function.comp_apply, beq_self_eq_true, if_true, writeBalance, lastWrite,
        Account.key]
      cases lastWrite rest (accountKey a.tenant a.code) <;> rfl
    · have miss : (a.key == k) = false := beq_eq_false_iff_ne.mpr (Ne.symm named)
      have later : lastWrite ((k, v) :: rest) a.key = lastWrite rest a.key := by
        simp [lastWrite, named]
      simp only [Function.comp_apply, miss, Bool.false_eq_true, if_false]
      unfold writeBalance
      rw [later]

-- Writing balances changes the accounts and nothing else.
theorem applyWrites_eq (writes : List (String × Decimal)) (user : String) (now : Timestamp) :
    b.applyWrites writes user now = { b with accounts := b.accounts.map (writeBalance writes user now) } := by
  rw [← applyWrites_accounts]
  induction writes generalizing b with
  | nil => rfl
  | cons w rest ih => exact ih

@[simp] theorem applyWrites_entries (writes : List (String × Decimal)) (user : String)
    (now : Timestamp) : (b.applyWrites writes user now).entries = b.entries := by
  induction writes generalizing b with
  | nil => rfl
  | cons w rest ih => exact ih

@[simp] theorem applyWrites_postings (writes : List (String × Decimal)) (user : String)
    (now : Timestamp) : (b.applyWrites writes user now).postings = b.postings := by
  induction writes generalizing b with
  | nil => rfl
  | cons w rest ih => exact ih

@[simp] theorem applyWrites_sequences (writes : List (String × Decimal)) (user : String)
    (now : Timestamp) : (b.applyWrites writes user now).sequences = b.sequences := by
  induction writes generalizing b with
  | nil => rfl
  | cons w rest ih => exact ih

@[simp] theorem nextNumber_accounts (tenant pfx : String) :
    (b.nextNumber tenant pfx).2.accounts = b.accounts := rfl

@[simp] theorem nextNumber_entries (tenant pfx : String) :
    (b.nextNumber tenant pfx).2.entries = b.entries := rfl

@[simp] theorem nextNumber_entry? (tenant pfx k : String) :
    Books.entry? (b.nextNumber tenant pfx).2 k = b.entry? k := rfl

@[simp] theorem nextNumber_postings (tenant pfx : String) :
    (b.nextNumber tenant pfx).2.postings = b.postings := rfl

theorem nextNumber_fst (tenant pfx : String) :
    (b.nextNumber tenant pfx).1 = b.lastNumber tenant pfx + 1 := rfl

theorem lastNumber_congr {b' : Books} (same : b'.sequences = b.sequences) (tenant pfx : String) :
    b'.lastNumber tenant pfx = b.lastNumber tenant pfx := by
  simp [lastNumber, same]

@[simp] theorem replaceEntry_lastNumber (e : Entry) (tenant pfx : String) :
    (b.replaceEntry e).lastNumber tenant pfx = b.lastNumber tenant pfx :=
  lastNumber_congr (replaceEntry_sequences e) tenant pfx

@[simp] theorem removeEntry_lastNumber (k tenant pfx : String) :
    (b.removeEntry k).lastNumber tenant pfx = b.lastNumber tenant pfx := rfl

@[simp] theorem applyWrites_lastNumber (writes : List (String × Decimal)) (user : String)
    (now : Timestamp) (tenant pfx : String) :
    (b.applyWrites writes user now).lastNumber tenant pfx = b.lastNumber tenant pfx :=
  lastNumber_congr (applyWrites_sequences writes user now) tenant pfx

-- Issuing a number advances its own sequence by one and no other.
theorem lastNumber_nextNumber (tenant pfx tenant' pfx' : String) :
    (b.nextNumber tenant pfx).2.lastNumber tenant' pfx' =
      if sequenceKey tenant' pfx' = sequenceKey tenant pfx then b.lastNumber tenant pfx + 1
      else b.lastNumber tenant' pfx' := by
  simp only [nextNumber, lastNumber, lookup_setKey]
  split
  · rfl
  · rfl

theorem lastNumber_le_nextNumber (tenant pfx tenant' pfx' : String) :
    b.lastNumber tenant' pfx' ≤ (b.nextNumber tenant pfx).2.lastNumber tenant' pfx' := by
  rw [lastNumber_nextNumber]
  split
  · rename_i same
    simp only [lastNumber, same]
    omega
  · exact Nat.le_refl _

-- Storing an entry after issuing a number and writing balances, as a reversal does: the
-- entries gain it at the end, and no entry stored before has its key.
theorem addEntry_after_writes {tenant pfx user : String} {now : Timestamp}
    {writes : List (String × Decimal)} {e : Entry} {b' : Books}
    (stored : ((b.nextNumber tenant pfx).2.applyWrites writes user now).addEntry e = .ok b') :
    b'.entries = b.entries ++ [e] ∧ ∀ x ∈ b.entries, x.key ≠ e.key := by
  obtain ⟨free, _⟩ := addEntry_eq_ok.mp stored
  refine ⟨by rw [addEntry_entries stored, applyWrites_entries, nextNumber_entries], ?_⟩
  simpa using entry?_eq_none.mp free

-- After such a store and one replacement, an entry of the books is the replacement, the entry
-- stored, or an entry stored before under another key than the replacement's.
theorem mem_replaceEntry_after_writes {tenant pfx user : String} {now : Timestamp}
    {writes : List (String × Decimal)} {e r x : Entry} {b' : Books}
    (stored : ((b.nextNumber tenant pfx).2.applyWrites writes user now).addEntry e = .ok b')
    (member : x ∈ (b'.replaceEntry r).entries) :
    x = r ∨ x = e ∨ (x ∈ b.entries ∧ x.key ≠ r.key) := by
  rcases mem_replaceEntry member with same | ⟨old, other⟩
  · exact .inl same
  · rw [(addEntry_after_writes stored).1] at old
    rcases List.mem_append.mp old with old | new
    · exact .inr (.inr ⟨old, other⟩)
    · exact .inr (.inl (List.mem_singleton.mp new))

-- Such a store leaves the accounts as the writes made them, whichever entry is then replaced.
theorem accounts_after_writes {tenant pfx user : String} {now : Timestamp}
    {writes : List (String × Decimal)} {e : Entry} {b' : Books}
    (stored : ((b.nextNumber tenant pfx).2.applyWrites writes user now).addEntry e = .ok b')
    (r : Entry) : (b'.replaceEntry r).accounts = b.accounts.map (writeBalance writes user now) := by
  rw [replaceEntry_accounts, addEntry_accounts stored, applyWrites_accounts, nextNumber_accounts]

end Books

end Ledger
