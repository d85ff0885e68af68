import Ledger.Proofs.HeldAccounts
import Ledger.Proofs.EntryForm
import Ledger.Proofs.Announcements

-- What posting an entry gives. The journal looks up the entry a number names in the caller's
-- tenant, refuses an entry of another tenant or one out of draft, and then takes the accounts
-- of the lines in ascending code order; in a state a session reaches the stored draft passes
-- the line check, so a posting is refused exactly by the first of these checks that fails, and
-- the accounts are refused for the least code that does not serve. A posting that succeeds
-- posts the draft as the caller, now, names each line after its account, moves every account
-- by the signed deltas of its lines and announces one posting with the debit total; one that
-- fails changes nothing.

namespace Ledger

namespace Books

-- The entry a number names in a tenant: the one stored under the tenant's key for the number,
-- when the number is text.
def named (b : Books) (tenant : String) (number : Ref) : Option Entry :=
  if number.exact then b.entry? (entryKey tenant number.text) else none

-- Books whose balances alone moved: the same accounts in the same order, each moved by
-- `delta` and stamped with a last change, nothing else about it changed.
def Moves (b' b : Books) (delta : Account → ℚ) : Prop :=
  List.Forall₂ (fun a' a => a' = { a with balance := a'.balance, audit := a'.audit } ∧
    a'.balance.value = a.balance.value + delta a) b'.accounts b.accounts

-- The entry a number names can be posted: it is the tenant's own draft, and every code of its
-- lines serves the tenant.
def Postable (b : Books) (tenant : String) (number : Ref) : Prop :=
  ∃ e, b.named tenant number = some e ∧ e.tenant = tenant ∧ e.status = .draft ∧
    ∀ l ∈ e.lines, b.Serves tenant l.code

-- Why posting the entry a number names is refused, check by check in the order the journal
-- makes them: no entry under the number, an entry of another tenant, an entry out of draft,
-- and last the least code of the draft's lines that does not serve, with that code's refusal.
inductive PostingRefused (b : Books) (tenant : String) (number : Ref) : Fault → Prop
  | missing (none : b.named tenant number = none) :
      PostingRefused b tenant number (.entryMissing number.text)
  | foreign {e : Entry} (found : b.named tenant number = some e) (other : e.tenant ≠ tenant) :
      PostingRefused b tenant number (.foreignEntry number.text)
  | notDraft {e : Entry} (found : b.named tenant number = some e) (own : e.tenant = tenant)
      (live : e.status ≠ .draft) :
      PostingRefused b tenant number (.notDraft e.number e.status .post)
  | account {e : Entry} {code : String} {f : Fault} (found : b.named tenant number = some e)
      (own : e.tenant = tenant) (draft : e.status = .draft) (line : ∃ l ∈ e.lines, l.code = code)
      (refused : b.Refuses tenant code f)
      (least : ∀ l ∈ e.lines, ¬ b.Serves tenant l.code → code ≤ l.code) :
      PostingRefused b tenant number f

end Books

-- What a posting that succeeded did with the draft `e`: it posted it as the caller, now,
-- keeping all else about it but its lines, totals and last change; named each line after the
-- account under its code; gave it the debit total on both sides; stored it in the draft's
-- place; moved every account of the tenant by the signed deltas of its lines; and announced
-- one posting with the debit total.
structure Office.PostedAs (o o' : Office) (c : Ctx) (e e' : Entry) : Prop where
  kept : e' = { e with
    lines := e'.lines, status := .posted, totalDebit := e'.totalDebit, totalCredit := e'.totalCredit,
    postedBy := c.user, postedAt := some c.now, audit := e'.audit }
  lines : e'.lines = e.lines.map fun l => { l with accountName := o.books.accountName c.tenant l.code }
  totalDebit : e'.totalDebit.value = (e.lines.map (·.debit.value)).sum
  totalCredit : e'.totalCredit.value = (e.lines.map (·.debit.value)).sum
  stored : o'.books.entry? e.key = some e'
  moved : o'.books.Moves o.books fun a =>
    if a.tenant = c.tenant then linesDelta e.lines a.code a.side else 0
  announced : ∃ ev, o'.events = o.events ++ [ev] ∧ ev.kind = .posted ∧ ev.tenant = c.tenant ∧
    ev.number = e.number ∧ ev.total = e'.totalDebit

section Frames

-- Writing balances changes an account's balance and last change only.
theorem writeBalance_frame (writes : List (String × Decimal)) (user : String) (now : Timestamp)
    (a : Account) :
    writeBalance writes user now a = { a with
      balance := (writeBalance writes user now a).balance,
      audit := (writeBalance writes user now a).audit } := by
  unfold writeBalance
  split <;> rfl

-- Storing a posting's writes moves the books' balances alone, each account by the signed
-- deltas of the entry's lines on its code when it is of the entry's tenant.
theorem Books.moves_of_postLines {b : Books} {c : Ctx} {e e' : Entry}
    {writes : List (String × Decimal)} (nodup : (b.accounts.map Account.key).Nodup)
    (posted : postLines b c e = .ok (e', writes)) (user : String) (now : Timestamp) :
    (b.applyWrites writes user now).Moves b fun a =>
      if a.tenant = e.tenant then linesDelta e.lines a.code a.side else 0 := by
  unfold Books.Moves
  rw [Books.applyWrites_accounts, List.forall₂_map_left_iff]
  refine List.forall₂_same.mpr fun a member => ⟨writeBalance_frame writes user now a, ?_⟩
  rw [postLines_accounts nodup posted user now a member]

-- A stored entry replaced by one with its key is found under that key.
theorem Books.entry?_replaceEntry {b : Books} (nodup : (b.entries.map Entry.key).Nodup)
    {e e' : Entry} (member : e ∈ b.entries) (same : e'.key = e.key) :
    Books.entry? (b.replaceEntry e') e.key = some e' := by
  rw [Books.entry?_eq_some (by rw [Books.replaceEntry_keys]; exact nodup)]
  exact ⟨Books.mem_replaceEntry_self member same.symm, same⟩

end Frames

namespace Office

variable {o : Office} {c : Ctx} {number : Ref} {e : Entry}

theorem entryByNumber_named (b : Books) (tenant : String) (number : Ref) :
    entryByNumber b tenant number = match b.named tenant number with
      | none => .error (.entryMissing number.text)
      | some e => if e.tenant != tenant then .error (.foreignEntry number.text) else .ok e := rfl

-- An entry found by number is the one the number names, of the tenant that asked.
theorem named_of_entryByNumber {b : Books} {tenant : String}
    (found : entryByNumber b tenant number = .ok e) : b.named tenant number = some e ∧ e.tenant = tenant := by
  rw [entryByNumber_named] at found
  split at found
  · cases found
  · rename_i e' named
    split at found
    · cases found
    · rename_i own
      cases found
      exact ⟨named, by simpa using own⟩

theorem named_mem {b : Books} {tenant : String} (found : b.named tenant number = some e) :
    e ∈ b.entries ∧ e.key = entryKey tenant number.text := by
  unfold Books.named at found
  split at found
  · exact Books.entry?_some found
  · cases found

-- Posting read off the books: the plan fails and nothing changes, or its entry is posted.
theorem postEntry_eq_plan : o.postEntry c number = match postPlan o.books c number with
    | .error f => (.error f, o)
    | .ok (e', writes) =>
      (.ok e', ({ o with books := (o.books.applyWrites writes c.user c.now).replaceEntry e' }).announce
        c .posted e') := by
  unfold postEntry
  rw [Books.withinTx_postBody]
  cases postPlan o.books c number <;> rfl

-- One lemma per way a posting goes: no entry, another tenant's, one out of draft, a draft.

theorem postEntry_missing (missing : o.books.named c.tenant number = none) :
    o.postEntry c number = (.error (.entryMissing number.text), o) := by
  simp [postEntry_eq_plan, postPlan, checkedEntry, entryByNumber_named, missing, bind, Except.bind]

theorem postEntry_foreign (found : o.books.named c.tenant number = some e)
    (other : e.tenant ≠ c.tenant) :
    o.postEntry c number = (.error (.foreignEntry number.text), o) := by
  simp [postEntry_eq_plan, postPlan, checkedEntry, entryByNumber_named, found, other, bind, Except.bind]

theorem postEntry_notDraft (found : o.books.named c.tenant number = some e)
    (own : e.tenant = c.tenant) (live : e.status ≠ .draft) :
    o.postEntry c number = (.error (.notDraft e.number e.status .post), o) := by
  simp [postEntry_eq_plan, postPlan, checkedEntry, entryByNumber_named, found, own, live, bind,
    Except.bind, throw, throwThe, MonadExceptOf.throw]

theorem postEntry_draft (found : o.books.named c.tenant number = some e) (own : e.tenant = c.tenant)
    (draft : e.status = .draft) :
    o.postEntry c number = match postLines o.books c e with
      | .error f => (.error f, o)
      | .ok (e', writes) =>
        (.ok e', ({ o with books := (o.books.applyWrites writes c.user c.now).replaceEntry e' }).announce
          c .posted e') := by
  rw [postEntry_eq_plan]
  cases posted : postLines o.books c e <;>
    simp [postPlan, checkedEntry, entryByNumber_named, found, own, draft, posted, bind, Except.bind,
      pure, Except.pure]

-- A draft the line check passes is refused by posting exactly for the least code of its lines
-- that does not serve its tenant.
theorem postLines_refused_iff {b : Books} {f : Fault} {totals : Decimal × Decimal}
    (checked : checkBalance e.lines = .ok totals) :
    postLines b c e = .error f ↔ ∃ code, (∃ l ∈ e.lines, l.code = code) ∧ b.Refuses e.tenant code f ∧
      ∀ l ∈ e.lines, ¬ b.Serves e.tenant l.code → code ≤ l.code := by
  rw [postLines_eq_error_iff checked, Books.holdAccounts_eq_error_iff]
  constructor
  · rintro ⟨code, member, refused, least⟩
    exact ⟨code, Entry.mem_codes.mp member, refused,
      fun l line unserved => least l.code (Entry.mem_codes.mpr ⟨l, line, rfl⟩) unserved⟩
  · rintro ⟨code, line, refused, least⟩
    refine ⟨code, Entry.mem_codes.mpr line, refused, fun code' member unserved => ?_⟩
    obtain ⟨l, lineMember, rfl⟩ := Entry.mem_codes.mp member
    exact least l lineMember unserved

theorem postLines_isOk_iff {b : Books} {totals : Decimal × Decimal}
    (checked : checkBalance e.lines = .ok totals) :
    (∃ r, postLines b c e = .ok r) ↔ ∀ l ∈ e.lines, b.Serves e.tenant l.code := by
  constructor
  · rintro ⟨⟨e', writes⟩, posted⟩ l member
    obtain ⟨_, _, held, _, _, _, hold, _, _⟩ := postLines_eq_ok posted
    exact Books.holdAccounts_isOk_iff.mp ⟨held, hold⟩ l.code (Entry.mem_codes.mpr ⟨l, member, rfl⟩)
  · intro serves
    obtain ⟨held, hold⟩ := Books.holdAccounts_isOk_iff.mpr fun code member => by
      obtain ⟨l, line, rfl⟩ := Entry.mem_codes.mp member
      exact serves l line
    exact postLines_isOk_of_held checked hold

end Office

section Outcome

variable {o : Office} {c : Ctx} {number : Ref}

-- In books whose entries are all checked, posting is refused exactly by the first failing check.
theorem Office.postEntry_error_iff (checked : o.books.EntriesChecked) (f : Fault) :
    (o.postEntry c number).1 = .error f ↔ o.books.PostingRefused c.tenant number f := by
  cases found : o.books.named c.tenant number with
  | none =>
    rw [Office.postEntry_missing found]
    constructor
    · rintro ⟨⟩
      exact .missing found
    · intro refused
      cases refused <;> simp_all
  | some e =>
    by_cases own : e.tenant = c.tenant
    · by_cases draft : e.status = .draft
      · -- a draft of the tenant: only its accounts can refuse it
        have passes := (checked e (Office.named_mem found).1).passes
        rw [Office.postEntry_draft found own draft]
        constructor
        · intro refused
          cases posted : postLines o.books c e with
          | ok r => rw [posted] at refused; cases refused
          | error f' =>
            rw [posted] at refused
            cases refused
            obtain ⟨code, line, refuses, least⟩ := (Office.postLines_refused_iff passes).mp posted
            rw [own] at refuses least
            exact .account found own draft line refuses least
        · intro refused
          cases refused with
          | missing none => simp_all
          | foreign found' other => simp_all
          | notDraft found' _ live => simp_all
          | account found' _ _ line refuses least =>
            rw [found'] at found
            cases found
            have posted := (Office.postLines_refused_iff (b := o.books) (c := c) passes).mpr
              ⟨_, line, own ▸ refuses, own ▸ least⟩
            rw [posted]
      · rw [Office.postEntry_notDraft found own draft]
        constructor
        · rintro ⟨⟩
          exact .notDraft found own draft
        · intro refused
          cases refused <;> simp_all
    · rw [Office.postEntry_foreign found own]
      constructor
      · rintro ⟨⟩
        exact .foreign found own
      · intro refused
        cases refused <;> simp_all

-- In books whose entries are all checked, posting succeeds exactly on a postable entry.
theorem Office.postEntry_ok_iff (checked : o.books.EntriesChecked) :
    (∃ e', (o.postEntry c number).1 = .ok e') ↔ o.books.Postable c.tenant number := by
  constructor
  · rintro ⟨e', posted⟩
    obtain ⟨e, _, found, draft, posting, -⟩ := Office.postEntry_eq_ok posted
    obtain ⟨found, own⟩ := Office.named_of_entryByNumber found
    have serves := (Office.postLines_isOk_iff (checked e (Office.named_mem found).1).passes).mp ⟨_, posting⟩
    exact ⟨e, found, own, draft, own ▸ serves⟩
  · rintro ⟨e, found, own, draft, serves⟩
    obtain ⟨⟨e', writes⟩, posting⟩ := (Office.postLines_isOk_iff (b := o.books) (c := c)
      (checked e (Office.named_mem found).1).passes).mpr (own ▸ serves)
    rw [Office.postEntry_draft found own draft, posting]
    exact ⟨e', rfl⟩

-- A posting that succeeds, in well-formed books whose entries are all checked, posted the draft
-- the number names as `PostedAs` says.
theorem Office.postEntry_posted (sound : o.books.Wellformed) (checked : o.books.EntriesChecked)
    {e' : Entry} (posted : (o.postEntry c number).1 = .ok e') :
    ∃ e, o.books.named c.tenant number = some e ∧ o.PostedAs (o.postEntry c number).2 c e e' := by
  obtain ⟨e, writes, found, draft, posting, -⟩ := Office.postEntry_eq_ok posted
  obtain ⟨found, own⟩ := Office.named_of_entryByNumber found
  have member := (Office.named_mem found).1
  have numbered := (checked e member).numbered
  rw [Office.postEntry_draft found own draft, posting]
  dsimp only
  obtain ⟨debit, credit, _, lines, _, balance, _, _, rfl⟩ := postLines_eq_ok posting
  obtain ⟨_, debitSum, creditSum, same⟩ := checkBalance_eq_ok balance
  have named := postLines_named posting
  rw [numbered.sortBy_eq, own] at named
  have debits : debit.value = (e.lines.map (·.debit.value)).sum := by
    rw [debitSum, sumAmounts_value, List.map_map]
    rfl
  refine ⟨e, found, ⟨rfl, named, debits, same ▸ debits, ?_, ?_, ?_⟩⟩
  · exact Books.entry?_replaceEntry (by simpa using sound.entryKeys) (by simpa using member) rfl
  · have moved := Books.moves_of_postLines sound.accountKeys posting c.user c.now
    unfold Books.Moves at moved ⊢
    simp only [Office.announce_books, Books.replaceEntry_accounts, ← own]
    exact moved
  · exact ⟨_, rfl, rfl, own, rfl, rfl⟩

end Outcome

-- Posting takes exactly the valid drafts, all or nothing. In every state a session reaches, a
-- posting of the entry a number names in the caller's tenant succeeds exactly when that entry is
-- the tenant's own draft and every code of its lines names an active account of the tenant;
-- otherwise it is refused by the first failing check (no entry, another tenant's entry, an
-- entry out of draft, then the least code, in code order, that does not serve, as unknown,
-- foreign or inactive), and the office is left as it was. A posting that succeeds posts the
-- draft as the caller, now, names its lines after their accounts, gives it the debit total on
-- both sides, moves every account by the signed deltas of its lines, and announces one posting.
theorem posting_takes_exactly_valid_drafts (pageSize : Nat) (calls : List Call) (c : Ctx)
    (number : Ref) :
    let o := (Office.start pageSize).run calls
    ((∃ e', (o.postEntry c number).1 = .ok e') ↔ o.books.Postable c.tenant number) ∧
      (∀ f, (o.postEntry c number).1 = .error f ↔ o.books.PostingRefused c.tenant number f) ∧
      (∀ f, (o.postEntry c number).1 = .error f → (o.postEntry c number).2 = o) ∧
      ∀ e', (o.postEntry c number).1 = .ok e' →
        ∃ e, o.books.named c.tenant number = some e ∧ o.PostedAs (o.postEntry c number).2 c e e' := by
  intro o
  have sound := Office.run_wellformed pageSize calls
  have checked := Office.run_entriesChecked pageSize calls
  exact ⟨Office.postEntry_ok_iff checked, Office.postEntry_error_iff checked,
    fun _ failed => Office.postEntry_error failed, fun _ posted => Office.postEntry_posted sound checked posted⟩

-- A draft with an unknown code on its first line and a deactivated account on its second is
-- refused for the least code that does not serve, here the second line's, and the office is
-- left as it was.
theorem posting_refused_for_least_code :
    let o := (Office.start 20).run
      [.registerAccount ⟨"T1", "u1", Timestamp.zero⟩ { code := "1000", name := "Cash", type := "ASSET" },
       .createDraft ⟨"T1", "u1", Timestamp.zero⟩
         { lines := [{ code := "9000", debit := ⟨100, 0⟩ }, { code := "1000", credit := ⟨100, 0⟩ }] },
       .deactivateAccount ⟨"T1", "u1", Timestamp.zero⟩ "1000"]
    (o.postEntry ⟨"T1", "u2", Timestamp.zero⟩ "JE-000001").1 = .error (.inactive "1000") ∧
      o.books.PostingRefused "T1" "JE-000001" (.inactive "1000") ∧
      (o.postEntry ⟨"T1", "u2", Timestamp.zero⟩ "JE-000001").2 = o := by
  intro o
  have refused : (o.postEntry ⟨"T1", "u2", Timestamp.zero⟩ "JE-000001").1 = .error (.inactive "1000") := by
    decide +kernel
  refine ⟨refused, ?_, ?_⟩
  · exact ((posting_takes_exactly_valid_drafts 20 _ _ _).2.1 _).mp refused
  · exact (posting_takes_exactly_valid_drafts 20 _ _ _).2.2.1 _ refused

end Ledger
