import Mathlib.Data.List.Infix
import Mathlib.Data.List.Find
import Ledger.Proofs.Wellformed
import Ledger.Proofs.PostingOrder

-- Tenants side by side in one set of books. Accounts and entries are stored under keys that
-- join the tenant and the code or number with a bar, so two tenants keep to their own keys
-- exactly when neither is the other followed by a bar: they are then apart. A tenant's part of
-- the books is what its calls can read: its accounts and entries with the identifiers the
-- office issued blanked, the postings of its entries in order and its number sequences. Every
-- write of the books changes the part of the tenant that makes it as the same write on the part
-- would, and leaves the part of every tenant apart from it as it was.

namespace Ledger

-- Two tenants whose storage keys never meet: they differ, and neither is the other followed by
-- a bar.
def Apart (t u : String) : Prop :=
  t ≠ u ∧ ¬ (t ++ "|").toList <+: u.toList ∧ ¬ (u ++ "|").toList <+: t.toList

instance instDecidableApart (t u : String) : Decidable (Apart t u) :=
  inferInstanceAs (Decidable (_ ∧ _ ∧ _))

example : Apart "T1" "T2" := by decide
example : ¬ Apart "a" "a|b" := by decide

theorem Apart.symm {t u : String} (apart : Apart t u) : Apart u t :=
  ⟨apart.1.symm, apart.2.2, apart.2.1⟩

theorem Apart.ne {t u : String} (apart : Apart t u) : t ≠ u := apart.1

-- A tenant, a bar and anything after it is never another tenant apart from it, a bar and
-- anything.
theorem Apart.barred_ne {t u : String} (apart : Apart t u) (x y : String) :
    t ++ "|" ++ x ≠ u ++ "|" ++ y := by
  intro same
  have lists : t.toList ++ '|' :: x.toList = u.toList ++ '|' :: y.toList := by
    simpa using congrArg String.toList same
  rcases List.append_eq_append_iff.mp lists with ⟨a, longer, rest⟩ | ⟨c, longer, rest⟩
  · -- `u` is `t` and more: the more starts with the bar
    cases a with
    | nil => exact apart.ne (String.toList_inj.mp (by simpa using longer.symm))
    | cons d a =>
      obtain ⟨rfl, _⟩ := List.cons.inj rest
      exact apart.2.1 ⟨a, by simp [longer]⟩
  · cases c with
    | nil => exact apart.ne (String.toList_inj.mp (by simpa using longer))
    | cons d c =>
      obtain ⟨rfl, _⟩ := List.cons.inj rest
      exact apart.2.2 ⟨c, by simp [longer]⟩

theorem Apart.not_prefix {t u : String} (apart : Apart t u) (y : String) :
    ¬ (t ++ "|").toList <+: (u ++ "|" ++ y).toList := by
  rintro ⟨rest, written⟩
  apply apart.barred_ne (String.ofList rest) y
  apply String.toList_inj.mp
  simpa using written

theorem accountKey_apart {t u : String} (apart : Apart t u) (x y : String) :
    accountKey t x ≠ accountKey u y := by
  intro same
  apply apart.barred_ne x y
  have lists := congrArg String.toList same
  simp only [accountKey, String.toList_append, List.append_assoc] at lists
  exact String.toList_inj.mp (by simpa using List.append_cancel_left lists)

theorem entryKey_apart {t u : String} (apart : Apart t u) (x y : String) :
    entryKey t x ≠ entryKey u y := by
  intro same
  apply apart.barred_ne x y
  have lists := congrArg String.toList same
  simp only [entryKey, String.toList_append, List.append_assoc] at lists
  exact String.toList_inj.mp (by simpa using List.append_cancel_left lists)

-- Rows with the identifier the office issued blanked.
def Account.anonymous (a : Account) : Account := { a with id := "" }

def Entry.anonymous (e : Entry) : Entry := { e with id := "" }

@[simp] theorem Account.anonymous_anonymous (a : Account) : a.anonymous.anonymous = a.anonymous := rfl
@[simp] theorem Entry.anonymous_anonymous (e : Entry) : e.anonymous.anonymous = e.anonymous := rfl
@[simp] theorem Account.anonymous_comp : Account.anonymous ∘ Account.anonymous = Account.anonymous := rfl
@[simp] theorem Entry.anonymous_comp : Entry.anonymous ∘ Entry.anonymous = Entry.anonymous := rfl

@[simp] theorem Account.anonymous_tenant (a : Account) : a.anonymous.tenant = a.tenant := rfl
@[simp] theorem Account.anonymous_code (a : Account) : a.anonymous.code = a.code := rfl
@[simp] theorem Account.anonymous_key (a : Account) : a.anonymous.key = a.key := rfl
@[simp] theorem Account.anonymous_level (a : Account) : a.anonymous.level = a.level := rfl
@[simp] theorem Entry.anonymous_tenant (e : Entry) : e.anonymous.tenant = e.tenant := rfl
@[simp] theorem Entry.anonymous_number (e : Entry) : e.anonymous.number = e.number := rfl
@[simp] theorem Entry.anonymous_key (e : Entry) : e.anonymous.key = e.key := rfl
@[simp] theorem Entry.anonymous_status (e : Entry) : e.anonymous.status = e.status := rfl

-- The storage key is an entry key of the tenant.
def ownsKey (t k : String) : Bool := decide (("entry|" ++ t ++ "|").toList <+: k.toList)

theorem ownsKey_entryKey (t n : String) : ownsKey t (entryKey t n) = true := by
  simp [ownsKey, entryKey]

theorem ownsKey_iff {t k : String} : ownsKey t k = true ↔ ∃ n, k = entryKey t n := by
  constructor
  · rintro owned
    obtain ⟨rest, written⟩ := of_decide_eq_true owned
    refine ⟨String.ofList rest, String.toList_inj.mp ?_⟩
    simpa [entryKey] using written.symm
  · rintro ⟨n, rfl⟩
    exact ownsKey_entryKey t n

theorem ownsKey_entryKey_apart {t u : String} (apart : Apart t u) (n : String) :
    ownsKey t (entryKey u n) = false := by
  simp only [ownsKey, decide_eq_false_iff_not]
  rintro ⟨rest, written⟩
  apply apart.barred_ne (String.ofList rest) n
  apply String.toList_inj.mp
  have lists : t.toList ++ '|' :: rest = u.toList ++ '|' :: n.toList := by
    simpa [entryKey] using written
  simpa using lists

-- The sequence key is one of the tenant's.
def ownsSequence (t k : String) : Bool := decide ((t ++ "|").toList <+: k.toList)

theorem ownsSequence_sequenceKey (t pfx : String) : ownsSequence t (sequenceKey t pfx) = true := by
  simp [ownsSequence, sequenceKey]

theorem ownsSequence_sequenceKey_apart {t u : String} (apart : Apart t u) (pfx : String) :
    ownsSequence t (sequenceKey u pfx) = false := by
  simpa [ownsSequence, sequenceKey] using apart.not_prefix pfx

section Bindings

-- Keeping the bindings of some keys keeps what those keys read, and a write of a key kept is
-- kept as written.
variable {α : Type} (keep : String → Bool) (m : List (String × α)) (k : String) (v : α)

theorem lookup_filter_of_keep {j : String} (kept : keep j = true) :
    (m.filter (keep ·.1)).lookup j = m.lookup j := by
  induction m with
  | nil => rfl
  | cons q m ih =>
    obtain ⟨k', v'⟩ := q
    by_cases asked : j = k'
    · subst asked
      simp [kept]
    · by_cases held : keep k' = true
      · rw [List.filter_cons_of_pos (p := fun q : String × α => keep q.1) held,
          lookup_cons_of_ne _ j asked, lookup_cons_of_ne _ j asked, ih]
      · rw [List.filter_cons_of_neg (p := fun q : String × α => keep q.1) held,
          lookup_cons_of_ne _ j asked, ih]

theorem setKey_filter_of_keep (kept : keep k = true) :
    (setKey m k v).filter (keep ·.1) = setKey (m.filter (keep ·.1)) k v := by
  simp only [setKey, List.filter_append, List.filter_filter, List.filter_cons, kept, if_true,
    List.filter_nil]
  congr 1
  exact List.filter_congr fun q _ => Bool.and_comm ..

theorem setKey_filter_of_drop (dropped : keep k = false) :
    (setKey m k v).filter (keep ·.1) = m.filter (keep ·.1) := by
  simp only [setKey, List.filter_append, List.filter_filter, List.filter_cons, dropped,
    Bool.false_eq_true, if_false, List.filter_nil, List.append_nil]
  refine List.filter_congr fun q _ => ?_
  by_cases hit : q.1 = k
  · simp [hit, dropped]
  · simp [hit]

end Bindings

-- The part of the books that belongs to a tenant: its accounts and entries with the identifiers
-- the office issued blanked, the postings of its entries in order and its number sequences. The
-- identifier indexes and the posting numbers count across tenants, so the part leaves them out.
def Books.part (b : Books) (t : String) : Books where
  accounts := (b.accounts.filter (·.tenant == t)).map Account.anonymous
  entries := (b.entries.filter (·.tenant == t)).map Entry.anonymous
  postOrder := (b.postings.filter (ownsKey t)).map fun k => (k, 0)
  sequences := b.sequences.filter (ownsSequence t ·.1)

namespace Books

variable (b : Books) (t : String)

@[simp] theorem part_accounts : (b.part t).accounts = (b.accounts.filter (·.tenant == t)).map Account.anonymous := rfl
@[simp] theorem part_entries : (b.part t).entries = (b.entries.filter (·.tenant == t)).map Entry.anonymous := rfl
@[simp] theorem part_postOrder : (b.part t).postOrder = (b.postings.filter (ownsKey t)).map fun k => (k, 0) := rfl
@[simp] theorem part_sequences : (b.part t).sequences = b.sequences.filter (ownsSequence t ·.1) := rfl
@[simp] theorem part_accountIDs : (b.part t).accountIDs = [] := rfl
@[simp] theorem part_entryIDs : (b.part t).entryIDs = [] := rfl
@[simp] theorem part_postSeq : (b.part t).postSeq = 0 := rfl

@[simp] theorem part_postings : (b.part t).postings = b.postings.filter (ownsKey t) := by
  simp [postings, Function.comp_def]

-- The tenant's rows, blanked, are all the tenant's.
@[simp] theorem filter_anonymous_accounts (as : List Account) :
    ((as.filter (·.tenant == t)).map Account.anonymous).filter (·.tenant == t) =
      (as.filter (·.tenant == t)).map Account.anonymous := by
  simp [List.filter_map, List.filter_filter, Function.comp_def]

@[simp] theorem filter_anonymous_entries (es : List Entry) :
    ((es.filter (·.tenant == t)).map Entry.anonymous).filter (·.tenant == t) =
      (es.filter (·.tenant == t)).map Entry.anonymous := by
  simp [List.filter_map, List.filter_filter, Function.comp_def]

end Books

-- The books hold the tenant apart: every other tenant of an account or an entry is apart from it.
structure Books.Isolates (b : Books) (t : String) : Prop where
  accounts : ∀ a ∈ b.accounts, a.tenant = t ∨ Apart t a.tenant
  entries : ∀ e ∈ b.entries, e.tenant = t ∨ Apart t e.tenant

namespace Books.Isolates

variable {b : Books} {t : String}

-- An account stored under one of the tenant's keys is the tenant's.
theorem account_tenant (iso : b.Isolates t) {a : Account} (member : a ∈ b.accounts) {x : String}
    (keyed : a.key = accountKey t x) : a.tenant = t :=
  (iso.accounts a member).resolve_right fun apart => accountKey_apart apart.symm a.code x keyed

theorem entry_tenant (iso : b.Isolates t) {e : Entry} (member : e ∈ b.entries) {x : String}
    (keyed : e.key = entryKey t x) : e.tenant = t :=
  (iso.entries e member).resolve_right fun apart => entryKey_apart apart.symm e.number x keyed

-- Looking up one of the tenant's keys finds, up to the identifier, what the tenant's part holds.
theorem account? (iso : b.Isolates t) (x : String) :
    (b.account? (accountKey t x)).map Account.anonymous = (b.part t).account? (accountKey t x) := by
  simp only [Books.account?, Books.part, List.find?_map, List.find?_filter]
  congr 1
  refine List.find?_congr fun a member => ?_
  by_cases keyed : a.key = accountKey t x
  · simp [keyed, iso.account_tenant member keyed]
  · simp [keyed]

theorem entry? (iso : b.Isolates t) (x : String) :
    (b.entry? (entryKey t x)).map Entry.anonymous = Books.entry? (b.part t) (entryKey t x) := by
  simp only [Books.entry?, Books.part, List.find?_map, List.find?_filter]
  congr 1
  refine List.find?_congr fun e member => ?_
  by_cases keyed : e.key = entryKey t x
  · simp [keyed, iso.entry_tenant member keyed]
  · simp [keyed]

theorem account?_isNone (iso : b.Isolates t) (x : String) :
    (b.account? (accountKey t x)).isNone = ((b.part t).account? (accountKey t x)).isNone := by
  rw [← iso.account? x, Option.isNone_map]

end Books.Isolates

theorem Books.lastNumber_part (b : Books) (t pfx : String) :
    (b.part t).lastNumber t pfx = b.lastNumber t pfx := by
  simp only [Books.lastNumber, Books.part_sequences]
  rw [lookup_filter_of_keep _ _ (ownsSequence_sequenceKey t pfx)]

section Sorting

variable {α β : Type} (le : α → α → Bool) (le' : β → β → Bool) (f : α → β)

theorem orderedInsertBy_map (same : ∀ x y, le' (f x) (f y) = le x y) (a : α) (l : List α) :
    (orderedInsertBy le a l).map f = orderedInsertBy le' (f a) (l.map f) := by
  induction l with
  | nil => rfl
  | cons x l ih =>
    simp only [orderedInsertBy, List.map_cons, same]
    split <;> simp [ih]

-- Sorting commutes with a map that keeps the order.
theorem sortBy_map (same : ∀ x y, le' (f x) (f y) = le x y) (l : List α) :
    (sortBy le l).map f = sortBy le' (l.map f) := by
  induction l with
  | nil => rfl
  | cons a l ih => simp only [sortBy, List.map_cons, orderedInsertBy_map le le' f same, ih]

end Sorting

attribute [ext] Books

namespace Books

variable {b : Books} {t : String}

-- Listing the tenant's accounts by a test that does not read identifiers lists them from its part.
theorem accountsOf_part (b : Books) (t : String) {keep : Account → Bool}
    (blind : ∀ a, keep a.anonymous = keep a) :
    (b.part t).accountsOf t keep = (b.accountsOf t keep).map Account.anonymous := by
  simp only [accountsOf, part, byCode]
  rw [sortBy_map (fun a b => !decide (b.code < a.code)) (fun a b => !decide (b.code < a.code))
    Account.anonymous (fun _ _ => rfl), List.filter_map, List.filter_filter]
  congr 2
  refine List.filter_congr fun a _ => ?_
  simp only [Function.comp_apply, Account.anonymous_tenant, blind]
  cases a.tenant == t <;> simp

theorem writeBalance_anonymous (ws : List (String × Decimal)) (user : String) (now : Timestamp)
    (a : Account) : writeBalance ws user now a.anonymous = (writeBalance ws user now a).anonymous := by
  simp only [writeBalance, Account.anonymous_key]
  cases lastWrite ws a.key <;> rfl

section Writes

variable (b : Books) (t : String)

-- Keeping the tenant's accounts and blanking identifiers commutes with a change of every
-- account that keeps tenants and does not read identifiers.
theorem filter_tenant_map {g : Account → Account} (keeps : ∀ a, (g a).tenant = a.tenant)
    (as : List Account) : (as.map g).filter (·.tenant == t) = (as.filter (·.tenant == t)).map g := by
  rw [List.filter_map]
  congr 1
  exact List.filter_congr fun a _ => by simp [keeps]

theorem part_accounts_map {g : Account → Account} (keeps : ∀ a, (g a).tenant = a.tenant)
    (blind : ∀ a, g a.anonymous = (g a).anonymous) (as : List Account) :
    ((as.map g).filter (·.tenant == t)).map Account.anonymous =
      ((as.filter (·.tenant == t)).map Account.anonymous).map g := by
  induction as with
  | nil => rfl
  | cons a as ih =>
    by_cases own : a.tenant = t
    · simp [own, keeps, blind, ih]
    · simp [own, keeps, ih]

theorem part_modifyAccount (k : String) {f : Account → Account}
    (keeps : ∀ a, (f a).tenant = a.tenant) (blind : ∀ a, f a.anonymous = (f a).anonymous) :
    (b.modifyAccount k f).part t = (b.part t).modifyAccount k f := by
  ext1
  case accounts =>
    refine part_accounts_map t (fun a => ?_) (fun a => ?_) _
    · by_cases hit : a.key = k <;> simp [hit, keeps]
    · by_cases hit : a.key = k <;> simp [hit, blind]
  all_goals rfl

theorem part_applyWrites (ws : List (String × Decimal)) (user : String) (now : Timestamp) :
    (b.applyWrites ws user now).part t = (b.part t).applyWrites ws user now := by
  rw [applyWrites_eq, applyWrites_eq]
  ext1
  case accounts =>
    exact part_accounts_map t (writeBalance_tenant ws user now) (writeBalance_anonymous ws user now) _
  all_goals rfl

-- The part of a part is the part: the tenant's rows are kept and blanked once.
@[simp] theorem part_part : (b.part t).part t = b.part t := by
  ext1 <;> simp [List.filter_filter]

theorem part_addAccount_own {a : Account} (own : a.tenant = t) (ids : List (String × String)) :
    ({ b with accounts := b.accounts ++ [a], accountIDs := ids } : Books).part t =
      { b.part t with accounts := (b.part t).accounts ++ [a.anonymous] } := by
  ext1 <;> simp [own, postings]

theorem part_addAccount_other {a : Account} (other : a.tenant ≠ t) (ids : List (String × String)) :
    ({ b with accounts := b.accounts ++ [a], accountIDs := ids } : Books).part t = b.part t := by
  ext1 <;> simp [other, postings]

theorem part_appendEntry_own {e : Entry} (own : e.tenant = t) (ids : List (String × String)) :
    ({ b with entries := b.entries ++ [e], entryIDs := ids } : Books).part t =
      { b.part t with entries := (b.part t).entries ++ [e.anonymous] } := by
  ext1 <;> simp [own, postings]

theorem part_appendEntry_other {e : Entry} (other : e.tenant ≠ t) (ids : List (String × String)) :
    ({ b with entries := b.entries ++ [e], entryIDs := ids } : Books).part t = b.part t := by
  ext1 <;> simp [other, postings]

-- A posting of one of the tenant's keys is noted in its part as on the books; only its number,
-- which the part blanks, depends on the other tenants.
theorem part_notePosting_own {k : String} (owned : ownsKey t k = true) (status : EntryStatus) :
    (b.notePosting k status).part t = ((b.part t).notePosting k status).part t := by
  have known : k ∈ (b.part t).postings ↔ k ∈ b.postings := by simp [owned]
  ext1
  case postOrder =>
    simp only [part_postOrder, notePosting_postings, known]
    split <;> simp [List.filter_append, owned, List.filter_filter]
  all_goals simp [List.filter_filter]

theorem part_notePosting_congr {b' : Books} (same : b.part t = b'.part t) {k : String}
    (owned : ownsKey t k = true) (status : EntryStatus) :
    (b.notePosting k status).part t = (b'.notePosting k status).part t := by
  rw [part_notePosting_own b t owned, part_notePosting_own b' t owned, same]

theorem part_notePosting_other {k : String} (owned : ownsKey t k = false) (status : EntryStatus) :
    (b.notePosting k status).part t = b.part t := by
  ext1
  case postOrder =>
    simp only [part_postOrder, notePosting_postings]
    split <;> simp [List.filter_append, owned]
  all_goals simp

theorem part_removeEntry (k : String) : (b.removeEntry k).part t = ((b.part t).removeEntry k).part t := by
  ext1
  case entries =>
    simp only [part_entries, removeEntry_entries, List.filter_map, List.filter_filter, List.map_map]
    congr 1
    exact List.filter_congr fun e _ => by simp [Bool.and_comm]
  case postOrder =>
    simp only [part_postOrder, removeEntry_postings, part_postings, List.filter_filter]
    congr 1
    exact List.filter_congr fun k' _ => by simp [Bool.and_comm]
  all_goals simp [List.filter_filter]

theorem part_nextNumber_own (pfx : String) :
    (b.nextNumber t pfx).2.part t = ((b.part t).nextNumber t pfx).2 := by
  ext1
  case sequences =>
    simp only [nextNumber, lastNumber_part, part_sequences]
    exact setKey_filter_of_keep _ _ _ _ (ownsSequence_sequenceKey t pfx)
  all_goals rfl

theorem part_nextNumber_other {u : String} (apart : Apart t u) (pfx : String) :
    (b.nextNumber u pfx).2.part t = b.part t := by
  ext1
  case sequences =>
    simp only [nextNumber, part_sequences]
    exact setKey_filter_of_drop _ _ _ _ (ownsSequence_sequenceKey_apart apart pfx)
  all_goals rfl

end Writes

section Foreign

variable (b : Books) {t u : String} (apart : Apart t u)
include apart

-- The tenant's part holds nothing under another tenant's keys.
theorem part_modifyAccount_other (x : String) {f : Account → Account}
    (keeps : ∀ a, (f a).tenant = a.tenant) :
    (b.modifyAccount (accountKey u x) f).part t = b.part t := by
  ext1
  case accounts =>
    simp only [part, modifyAccount]
    rw [filter_tenant_map t fun a => by by_cases hit : a.key = accountKey u x <;> simp [hit, keeps]]
    congr 1
    refine (List.map_congr_left fun a mine => ?_).trans (List.map_id _)
    have tenant : a.tenant = t := by simpa using (List.mem_filter.mp mine).2
    have other : a.key ≠ accountKey u x := by
      simpa [Account.key, tenant] using accountKey_apart apart a.code x
    simp [other]
  all_goals rfl

theorem part_applyWrites_other {ws : List (String × Decimal)}
    (foreign : ∀ w ∈ ws, ∃ x, w.1 = accountKey u x) (user : String) (now : Timestamp) :
    (b.applyWrites ws user now).part t = b.part t := by
  rw [applyWrites_eq]
  ext1
  case accounts =>
    simp only [part_accounts]
    rw [filter_tenant_map t (writeBalance_tenant ws user now)]
    congr 1
    refine (List.map_congr_left fun a mine => writeBalance_of_none _ _ _ _ ?_).trans (List.map_id _)
    have tenant : a.tenant = t := by simpa using (List.mem_filter.mp mine).2
    refine lastWrite_eq_none.mpr fun w written same => ?_
    obtain ⟨x, keyed⟩ := foreign w written
    exact accountKey_apart apart a.code x (by simpa [Account.key, tenant, keyed] using same.symm)
  all_goals rfl

theorem part_removeEntry_other (n : String) : (b.removeEntry (entryKey u n)).part t = b.part t := by
  ext1
  case entries =>
    simp only [part_entries, removeEntry_entries, List.filter_filter]
    congr 1
    refine List.filter_congr fun e _ => ?_
    by_cases own : e.tenant = t
    · have other : e.key ≠ entryKey u n := by
        simpa [Entry.key, own] using entryKey_apart apart e.number n
      simp [own, other]
    · simp [own]
  case postOrder =>
    simp only [part_postOrder, removeEntry_postings, List.filter_filter]
    congr 1
    refine List.filter_congr fun k _ => ?_
    by_cases removed : k = entryKey u n
    · simp [removed, ownsKey_entryKey_apart apart]
    · simp [removed]
  all_goals rfl

theorem part_replaceEntry_other {e : Entry} (tenant : e.tenant = u) :
    (b.replaceEntry e).part t = b.part t := by
  have unowned : ownsKey t e.key = false := by
    rw [Entry.key, tenant]
    exact ownsKey_entryKey_apart apart _
  rw [replaceEntry, part_notePosting_other _ _ unowned]
  ext1
  case entries =>
    simp only [part]
    congr 1
    -- an entry of the tenant is never stored under the other tenant's key, so the
    -- replacement neither enters nor touches the tenant's entries
    have untouched : ∀ x : Entry, x.tenant = t → x.key ≠ e.key := fun x own => by
      simpa [Entry.key, own, tenant] using entryKey_apart apart x.number e.number
    have same : ∀ x ∈ b.entries,
        ((·.tenant == t) ∘ fun x : Entry => if x.key == e.key then e else x) x = (x.tenant == t) := by
      intro x _
      by_cases hit : x.key = e.key
      · have foreign : x.tenant ≠ t := fun own => untouched x own hit
        simp [hit, foreign, tenant, Ne.symm apart.ne]
      · simp [hit]
    rw [List.filter_map, List.filter_congr same]
    refine (List.map_congr_left fun x mine => ?_).trans (List.map_id _)
    have own : x.tenant = t := by simpa using (List.mem_filter.mp mine).2
    simp [untouched x own]
  all_goals rfl

end Foreign

namespace Isolates

variable {b : Books} {t : String} (iso : b.Isolates t)
include iso

theorem part_replaceEntry {e : Entry} (own : e.tenant = t) :
    (b.replaceEntry e).part t = ((b.part t).replaceEntry e.anonymous).part t := by
  have owned : ownsKey t e.key = true := by
    rw [Entry.key, own]
    exact ownsKey_entryKey t _
  -- the rows replaced: in the part, the replacement blanked takes the replaced row's place
  have replaced : ({ b with entries := b.entries.map fun x => if x.key == e.key then e else x } :
      Books).part t = { b.part t with
        entries := (b.part t).entries.map fun x => if x.key == e.key then e.anonymous else x } := by
    ext1
    case entries =>
      -- the entry replaced is stored under the tenant's key, so it is the tenant's
      have same : ∀ x ∈ b.entries,
          ((·.tenant == t) ∘ fun x : Entry => if x.key == e.key then e else x) x = (x.tenant == t) := by
        intro x member
        by_cases hit : x.key = e.key
        · have mine : x.tenant = t := iso.entry_tenant member (by rw [hit, Entry.key, own])
          simp [hit, mine, own]
        · simp [hit]
      simp only [part_entries]
      rw [List.filter_map, List.filter_congr same, List.map_map, List.map_map]
      refine List.map_congr_left fun x _ => ?_
      by_cases hit : x.key = e.key <;> simp [hit]
    all_goals rfl
  rw [replaceEntry, replaceEntry, Entry.anonymous_key, Entry.anonymous_status]
  conv_lhs => rw [part_notePosting_own _ t owned, replaced]

theorem modifyAccount (k : String) {f : Account → Account} (keeps : ∀ a, (f a).tenant = a.tenant) :
    (b.modifyAccount k f).Isolates t := by
  refine ⟨fun a member => ?_, iso.entries⟩
  obtain ⟨a, stored, rfl⟩ := List.mem_map.mp member
  by_cases hit : a.key = k <;> simpa [hit, keeps] using iso.accounts a stored

theorem applyWrites (ws : List (String × Decimal)) (user : String) (now : Timestamp) :
    (b.applyWrites ws user now).Isolates t := by
  refine ⟨fun a member => ?_, by simpa using iso.entries⟩
  rw [applyWrites_accounts] at member
  obtain ⟨a, stored, rfl⟩ := List.mem_map.mp member
  simpa using iso.accounts a stored

theorem addAccount {a : Account} (fits : a.tenant = t ∨ Apart t a.tenant) (ids : List (String × String)) :
    ({ b with accounts := b.accounts ++ [a], accountIDs := ids } : Books).Isolates t := by
  refine ⟨fun x member => ?_, iso.entries⟩
  rcases List.mem_append.mp member with stored | added
  · exact iso.accounts x stored
  · rw [List.mem_singleton.mp added]
    exact fits

theorem notePosting (k : String) (status : EntryStatus) : (b.notePosting k status).Isolates t := by
  unfold Books.notePosting
  split
  · exact iso
  · exact ⟨iso.accounts, iso.entries⟩

theorem appendEntry {e : Entry} (fits : e.tenant = t ∨ Apart t e.tenant) (ids : List (String × String)) :
    ({ b with entries := b.entries ++ [e], entryIDs := ids } : Books).Isolates t := by
  refine ⟨iso.accounts, fun x member => ?_⟩
  rcases List.mem_append.mp member with stored | added
  · exact iso.entries x stored
  · rw [List.mem_singleton.mp added]
    exact fits

theorem replaceEntry {e : Entry} (fits : e.tenant = t ∨ Apart t e.tenant) :
    (b.replaceEntry e).Isolates t := by
  have replaced : ({ b with entries := b.entries.map fun x => if x.key == e.key then e else x } :
      Books).Isolates t := by
    refine ⟨iso.accounts, fun x member => ?_⟩
    obtain ⟨x, stored, rfl⟩ := List.mem_map.mp member
    by_cases hit : x.key = e.key
    · simpa [hit] using fits
    · simpa [hit] using iso.entries x stored
  exact replaced.notePosting _ _

theorem removeEntry (k : String) : (b.removeEntry k).Isolates t :=
  ⟨iso.accounts, fun e member => iso.entries e (List.mem_filter.mp member).1⟩

theorem nextNumber (tenant pfx : String) : (b.nextNumber tenant pfx).2.Isolates t :=
  ⟨iso.accounts, iso.entries⟩

end Isolates

-- Writes that each act on the tenant's part as on the books act so in any number.
theorem part_foldl {α : Type} (t : String) (F : Books → α → Books)
    (commutes : ∀ b x, (F b x).part t = F (b.part t) x) (xs : List α) (b : Books) :
    (xs.foldl F b).part t = xs.foldl F (b.part t) := by
  induction xs generalizing b with
  | nil => rfl
  | cons x rest ih => rw [List.foldl_cons, List.foldl_cons, ih, commutes]

theorem addAccount_of_fresh {b : Books} {a : Account} (free : b.accountById? a.id = none) :
    b.addAccount a = if (b.account? a.key).isSome then .error (.duplicateCode a.code)
      else .ok { b with accounts := b.accounts ++ [a], accountIDs := setKey b.accountIDs a.id a.key } := by
  have unindexed : b.accountIDs.lookup a.id = none := by simpa [Books.accountById?] using free
  simp [Books.addAccount, unindexed]

end Books

-- Accounts equal up to their identifiers differ in nothing else.
theorem Account.eq_of_anonymous {a₁ a₂ : Account} (same : a₁.anonymous = a₂.anonymous) :
    a₁ = { a₂ with id := a₁.id } := by
  cases a₁
  cases a₂
  simp only [Account.anonymous, Account.mk.injEq] at same ⊢
  simp [same]

-- Books that hold a tenant apart, keep their posting order numbered, and give the tenant the
-- same part.
structure Books.Alike (t : String) (b₁ b₂ : Books) : Prop where
  part : b₁.part t = b₂.part t
  isolates₁ : b₁.Isolates t
  isolates₂ : b₂.Isolates t
  numbered₁ : b₁.Numbered
  numbered₂ : b₂.Numbered

namespace Books.Alike

variable {b₁ b₂ : Books} {t : String} (alike : b₁.Alike t b₂)
include alike

theorem account?_lookup (x : String) :
    (b₁.account? (accountKey t x)).map Account.anonymous =
      (b₂.account? (accountKey t x)).map Account.anonymous := by
  rw [alike.isolates₁.account? x, alike.isolates₂.account? x, alike.part]

theorem account?_isSome (x : String) :
    (b₁.account? (accountKey t x)).isSome = (b₂.account? (accountKey t x)).isSome := by
  simpa using congrArg Option.isSome (alike.account?_lookup x)

end Books.Alike

section Agreement

-- What a tenant sees of an outcome: the result with the identifiers in it blanked by `f`, and
-- its part of the books afterwards.
def Outcome.view {α β : Type} (t : String) (f : α → β) (r : Outcome α) : Except Fault β × Books :=
  (r.1.map f, r.2.books.part t)

variable {ε α β γ δ : Type}

theorem Outcome.view_agree {t : String} {f : α → β} {x₁ x₂ : Except Fault α} {o₁ o₂ : Office}
    (answer : x₁.map f = x₂.map f) (part : o₁.books.part t = o₂.books.part t) :
    Outcome.view t f (x₁, o₁) = Outcome.view t f (x₂, o₂) := by
  simp only [Outcome.view, answer, part]

-- Results that agree up to `g` fail alike or both succeed.
theorem Except.agree_cases {g : α → γ} {x₁ x₂ : Except ε α} (same : x₁.map g = x₂.map g) :
    (∃ e, x₁ = .error e ∧ x₂ = .error e) ∨ ∃ a₁ a₂, x₁ = .ok a₁ ∧ x₂ = .ok a₂ ∧ g a₁ = g a₂ := by
  cases x₁ <;> cases x₂ <;> simp_all [Except.map]

theorem map_bind_eq (f : β → γ) (x : Except ε α) (k : α → Except ε β) :
    (x >>= k).map f = x >>= fun a => (k a).map f := by
  cases x <;> rfl

theorem bind_map_anonymous (x : Except ε Account) (k : Account → Except ε β) :
    x.map Account.anonymous >>= k = x >>= fun a => k a.anonymous := by
  cases x <;> rfl

theorem eq_error_of_map {f : α → β} {x₁ x₂ : Except ε α} {e : ε}
    (same : x₁.map f = x₂.map f) (failed : x₁ = .error e) : x₂ = .error e := by
  subst failed
  cases x₂ <;> simp_all [Except.map]

theorem eq_ok_of_map {f : α → β} {x₁ x₂ : Except ε α} {a₁ : α}
    (same : x₁.map f = x₂.map f) (done : x₁ = .ok a₁) : ∃ a₂, x₂ = .ok a₂ ∧ f a₁ = f a₂ := by
  subst done
  cases x₂ <;> simp_all [Except.map]

-- Two computations agree up to `V` when their first steps agree up to `g` and any two
-- continuations from results that agree up to `g` agree up to `V`.
theorem bind_agree {g : α → γ} {V : β → δ} {x₁ x₂ : Except ε α} {k₁ k₂ : α → Except ε β}
    (first : x₁.map g = x₂.map g)
    (rest : ∀ a₁ a₂, x₁ = .ok a₁ → x₂ = .ok a₂ → g a₁ = g a₂ → (k₁ a₁).map V = (k₂ a₂).map V) :
    (x₁ >>= k₁).map V = (x₂ >>= k₂).map V := by
  cases x₁ <;> cases x₂ <;> simp only [Except.map, Except.error.injEq, reduceCtorEq,
    Except.ok.injEq] at first
  · rw [first]
    rfl
  · exact rest _ _ rfl rfl first

end Agreement

end Ledger
