import Ledger.Office.Chart
import Ledger.Proofs.Posting
import Ledger.Proofs.Numbers
import Ledger.Proofs.Services

-- Sessions of the services. A session starts from an empty office and makes calls of the
-- account directory and the journal engine, each on the office the previous call left,
-- whether that call succeeded or failed. One lemma per operation says what a failing and
-- what a succeeding call does to the books and the announced events; the invariants of the
-- ledger are proved from these alone.

namespace Ledger

-- A call of one of the services that change the books, with the caller's context.
inductive Call where
  | registerAccount (c : Ctx) (req : AccountRequest)
  | updateAccount (c : Ctx) (code : Ref) (patch : AccountPatch)
  | deactivateAccount (c : Ctx) (code : Ref)
  | createDraft (c : Ctx) (req : EntryRequest)
  | updateDraft (c : Ctx) (number : Ref) (req : EntryRequest)
  | discardDraft (c : Ctx) (number : Ref)
  | postEntry (c : Ctx) (number : Ref)
  | reverseEntry (c : Ctx) (number : Ref)

namespace Call

def ctx : Call → Ctx
  | registerAccount c _ | updateAccount c _ _ | deactivateAccount c _ | createDraft c _
  | updateDraft c _ _ | discardDraft c _ | postEntry c _ | reverseEntry c _ => c

-- Whether a call succeeded, with the office after it; a value it returns is dropped.
def perform : Call → Office → Outcome Unit
  | registerAccount c req, o => settle (o.registerAccount c req)
  | updateAccount c code patch, o => settle (o.updateAccount c code patch)
  | deactivateAccount c code, o => o.deactivateAccount c code
  | createDraft c req, o => settle (o.createDraft c req)
  | updateDraft c number req, o => settle (o.updateDraft c number req)
  | discardDraft c number, o => o.discardDraft c number
  | postEntry c number, o => settle (o.postEntry c number)
  | reverseEntry c number, o => settle (o.reverseEntry c number)
where
  settle {α : Type} (r : Outcome α) : Outcome Unit := (r.1.map fun _ => (), r.2)

end Call

namespace Office

-- The office a session starts from.
def start (pageSize : Nat) : Office := { pageSize := pageSize }

-- The office a session starts from, drawing identifiers from `ids`.
def startWith (pageSize : Nat) (ids : Nat → String) : Office := { pageSize := pageSize, ids := ids }

-- The office after a list of calls, made in order.
def run (o : Office) (calls : List Call) : Office :=
  calls.foldl (fun o call => (call.perform o).2) o

@[simp] theorem run_nil (o : Office) : o.run [] = o := rfl

@[simp] theorem run_cons (o : Office) (call : Call) (calls : List Call) :
    o.run (call :: calls) = ((call.perform o).2).run calls := rfl

theorem run_append (o : Office) (calls more : List Call) :
    o.run (calls ++ more) = (o.run calls).run more := by
  simp [run, List.foldl_append]

@[simp] theorem start_books (pageSize : Nat) : (start pageSize).books = {} := rfl

end Office

-- A property of offices that every call of a session keeps holds after the session.
theorem Office.run_invariant_of_mem (P : Office → Prop) {calls : List Call}
    (step : ∀ (o : Office), ∀ call ∈ calls, P o → P (call.perform o).2)
    {o : Office} (holds : P o) : P (o.run calls) := by
  induction calls generalizing o with
  | nil => exact holds
  | cons call rest ih =>
    exact ih (fun o' call' later => step o' call' (List.mem_cons_of_mem _ later))
      (step o call List.mem_cons_self holds)

-- A property of offices that every call keeps holds after every session.
theorem Office.run_invariant (P : Office → Prop)
    (step : ∀ (o : Office) (call : Call), P o → P (call.perform o).2)
    {o : Office} (holds : P o) (calls : List Call) : P (o.run calls) :=
  Office.run_invariant_of_mem P (fun o call _ => step o call) holds

theorem Call.settle_error {α : Type} {r : Outcome α} {f : Fault} :
    (Call.perform.settle r).1 = .error f ↔ r.1 = .error f := by
  obtain ⟨result, o⟩ := r
  cases result <;> simp [Call.perform.settle, Except.map]

@[simp] theorem Call.settle_snd {α : Type} (r : Outcome α) : (Call.perform.settle r).2 = r.2 := rfl

-- A change of an account that keeps everything postings read and write: its place in the books,
-- its side and its balances.
structure Account.Retains (a' a : Account) : Prop where
  tenant : a'.tenant = a.tenant
  code : a'.code = a.code
  side : a'.side = a.side
  opening : a'.opening = a.opening
  balance : a'.balance = a.balance
  id : a'.id = a.id

theorem Account.Retains.key {a' a : Account} (kept : a'.Retains a) : a'.key = a.key := by
  simp [Account.key, kept.tenant, kept.code]

-- New content for a stored draft: the entry keeps its tenant, number, status and links.
structure Entry.Rewrites (e e0 : Entry) : Prop where
  tenant : e.tenant = e0.tenant
  number : e.number = e0.number
  status : e.status = e0.status
  reversalOf : e.reversalOf = e0.reversalOf
  reversedBy : e.reversedBy = e0.reversedBy
  id : e.id = e0.id

theorem Entry.Rewrites.key {e e0 : Entry} (same : e.Rewrites e0) : e.key = e0.key := by
  simp [Entry.key, same.tenant, same.number]

-- Books in which only the details of accounts changed.
def Books.Redescribed (b' b : Books) : Prop :=
  ∃ g : Account → Account, (∀ x, (g x).Retains x) ∧ b' = { b with accounts := b.accounts.map g }

namespace Books

theorem Redescribed.refl (b : Books) : b.Redescribed b :=
  ⟨id, fun _ => ⟨rfl, rfl, rfl, rfl, rfl, rfl⟩, by simp⟩

theorem Redescribed.trans {b'' b' b : Books} (later : b''.Redescribed b')
    (earlier : b'.Redescribed b) : b''.Redescribed b := by
  obtain ⟨g, keeps, rfl⟩ := earlier
  obtain ⟨g', keeps', rfl⟩ := later
  refine ⟨g' ∘ g, fun x => ?_, by simp⟩
  have outer := keeps' (g x)
  have inner := keeps x
  exact ⟨outer.tenant.trans inner.tenant, outer.code.trans inner.code, outer.side.trans inner.side,
    outer.opening.trans inner.opening, outer.balance.trans inner.balance, outer.id.trans inner.id⟩

theorem modifyAccount_redescribed {b : Books} {k : String} {f : Account → Account}
    (keeps : ∀ x, (f x).Retains x) : (b.modifyAccount k f).Redescribed b := by
  refine ⟨fun x => if x.key == k then f x else x, fun x => ?_, rfl⟩
  dsimp only
  split
  · exact keeps x
  · exact ⟨rfl, rfl, rfl, rfl, rfl, rfl⟩

theorem foldl_redescribed {α : Type} (F : Books → α → Books) (each : ∀ b x, (F b x).Redescribed b)
    (xs : List α) (b : Books) : (xs.foldl F b).Redescribed b := by
  induction xs generalizing b with
  | nil => exact Redescribed.refl b
  | cons x rest ih => exact (ih (F b x)).trans (each b x)

end Books

namespace Office

variable {o : Office} {c : Ctx}

@[simp] theorem freshId_books : o.freshId.2.books = o.books := rfl
@[simp] theorem freshId_events : o.freshId.2.events = o.events := rfl

theorem entryByNumber_eq_ok {b : Books} {tenant : String} {number : Ref} {e : Entry}
    (found : entryByNumber b tenant number = .ok e) :
    e ∈ b.entries ∧ e.tenant = tenant ∧ e.key = entryKey tenant number.text := by
  unfold entryByNumber at found
  split at found
  · cases found
  · rename_i stored lookup
    split at found
    · cases found
    · rename_i same
      cases found
      have looked : b.entry? (entryKey tenant number.text) = some e := by
        split at lookup
        · exact lookup
        · cases lookup
      exact ⟨(Books.entry?_some looked).1, by simpa using same, (Books.entry?_some looked).2⟩

theorem accountByCode_eq_ok {b : Books} {tenant : String} {code : Ref} {a : Account}
    (found : accountByCode b tenant code = .ok a) :
    a ∈ b.accounts ∧ a.tenant = tenant ∧ a.key = accountKey tenant code.text := by
  unfold accountByCode at found
  split at found
  · cases found
  · rename_i stored lookup
    split at found
    · cases found
    · rename_i same
      cases found
      have looked : b.account? (accountKey tenant code.text) = some a := by
        split at lookup
        · exact lookup
        · cases lookup
      exact ⟨(Books.account?_some looked).1, by simpa using same, (Books.account?_some looked).2⟩

-- Registering: a failure changes no books; a success appends the new account, stored under a
-- key no account had, opened at its opening balance.
theorem registerAccount_error {req : AccountRequest} {f : Fault}
    (failed : (o.registerAccount c req).1 = .error f) :
    (o.registerAccount c req).2.books = o.books ∧ (o.registerAccount c req).2.events = o.events := by
  unfold registerAccount at failed ⊢
  simp only [freshId] at failed ⊢
  split at failed
  · simp
  · split at failed
    · simp
    · cases failed

theorem registerAccount_ok {req : AccountRequest} {a : Account}
    (opened : (o.registerAccount c req).1 = .ok a) :
    o.books.account? a.key = none ∧ (o.books.accountById? a.id).isNone ∧ a.tenant = c.tenant ∧
      a.code = req.code ∧ a.balance = a.opening ∧ a.active = true ∧
      (o.registerAccount c req).2.books =
        { o.books with
          accounts := o.books.accounts ++ [a]
          accountIDs := setKey o.books.accountIDs a.id a.key } ∧
      (o.registerAccount c req).2.events = o.events := by
  unfold registerAccount at opened ⊢
  simp only [freshId] at opened ⊢
  split at opened
  · cases opened
  · split at opened
    · cases opened
    · rename_i books added
      cases opened
      obtain ⟨free, fresh, rfl⟩ := Books.addAccount_eq_ok.mp added
      refine ⟨free, fresh, rfl, rfl, rfl, rfl, ?_, ?_⟩ <;> simp

-- Changing an account's details: storing the change keeps every account's balances and place.
theorem withChanges_retains (current changed : Account) :
    (withChanges current changed).Retains current := ⟨rfl, rfl, rfl, rfl, rfl, rfl⟩

theorem storeChanges_redescribed {b b' : Books} {a : Account} (stored : storeChanges b a = .ok b') :
    b'.Redescribed b := by
  unfold storeChanges at stored
  split at stored
  · cases stored
  · cases stored
    exact Books.modifyAccount_redescribed fun x => withChanges_retains x a

theorem storeMove_redescribed {b b' : Books} {a : Account} {levels : List (String × Nat)}
    (stored : storeMove b a levels = .ok b') : b'.Redescribed b := by
  unfold storeMove at stored
  obtain ⟨_, _, stored⟩ := Except.bind_eq_ok.mp stored
  obtain ⟨_, _, stored⟩ := Except.bind_eq_ok.mp stored
  cases stored
  refine Books.Redescribed.trans (Books.foldl_redescribed _ (fun b w => ?_) levels _)
    (Books.modifyAccount_redescribed fun x => withChanges_retains x a)
  exact Books.modifyAccount_redescribed fun x => ⟨rfl, rfl, rfl, rfl, rfl, rfl⟩

theorem updateAccount_error {code : Ref} {p : AccountPatch} {f : Fault}
    (failed : (o.updateAccount c code p).1 = .error f) : (o.updateAccount c code p).2 = o := by
  revert failed
  unfold updateAccount
  extract_lets b jp result
  clear_value result
  cases result with
  | error f' => intro _; rfl
  | ok r => intro failed; cases failed

-- A change the office accepts: the office keeps all but its books, and the account found under
-- the code, with new details, is stored as a change that keeps its parent and level, or moved
-- under a new parent to the level the move computes, with the new levels of its descendants.
theorem updateAccount_stored {code : Ref} {p : AccountPatch} {a : Account}
    (changed : (o.updateAccount c code p).1 = .ok a) :
    ∃ books a0, (o.updateAccount c code p).2 = { o with books } ∧
      accountByCode o.books c.tenant code = .ok a0 ∧ a.tenant = a0.tenant ∧ a.code = a0.code ∧
      (a.parent = a0.parent ∧ a.level = a0.level ∧ storeChanges o.books a = .ok books ∨
        reparentLevel o.books c.tenant a0.code a.parent = .ok a.level ∧
          storeMove o.books a (if a.level == a0.level then [] else
            subtreeLevels o.books c.tenant a0.code (o.books.accounts.length + 1) [(a0.code, a.level)] []) =
            .ok books) := by
  revert changed
  unfold updateAccount
  extract_lets b jp result
  generalize settled : result = r
  cases r with
  | error f => intro changed; cases changed
  | ok r =>
    obtain ⟨a', books⟩ := r
    intro changed
    cases changed
    refine ⟨books, ?_⟩
    simp only [result, jp] at settled
    split at settled
    · simp [throw, throwThe, MonadExceptOf.throw, bind, Except.bind] at settled
    · obtain ⟨a0, found, settled⟩ := Except.bind_eq_ok.mp settled
      split at settled
      · split at settled
        · -- the parent given is the current one: a change of details
          obtain ⟨_, stored, settled⟩ := Except.bind_eq_ok.mp settled
          cases settled
          exact ⟨a0, rfl, found, rfl, rfl, .inl ⟨rfl, rfl, stored⟩⟩
        · obtain ⟨_, leveled, settled⟩ := Except.bind_eq_ok.mp settled
          obtain ⟨_, stored, settled⟩ := Except.bind_eq_ok.mp settled
          cases settled
          exact ⟨a0, rfl, found, rfl, rfl, .inr ⟨leveled, stored⟩⟩
      · obtain ⟨_, stored, settled⟩ := Except.bind_eq_ok.mp settled
        cases settled
        exact ⟨a0, rfl, found, rfl, rfl, .inl ⟨rfl, rfl, stored⟩⟩

theorem updateAccount_ok {code : Ref} {p : AccountPatch} {a : Account}
    (changed : (o.updateAccount c code p).1 = .ok a) :
    ∃ books, books.Redescribed o.books ∧ (o.updateAccount c code p).2 = { o with books } := by
  obtain ⟨books, _, office, _, _, _, ⟨_, _, stored⟩ | ⟨_, stored⟩⟩ := updateAccount_stored changed
  · exact ⟨books, storeChanges_redescribed stored, office⟩
  · exact ⟨books, storeMove_redescribed stored, office⟩

theorem deactivateAccount_error {code : Ref} {f : Fault}
    (failed : (o.deactivateAccount c code).1 = .error f) : (o.deactivateAccount c code).2 = o := by
  unfold deactivateAccount at failed ⊢
  cases found : accountByCode o.books c.tenant code with
  | error f' => rfl
  | ok a =>
    simp only [found] at failed ⊢
    by_cases active : a.active = true
    · cases stored : storeChanges o.books { a with active := false, audit := a.audit.touch c.user c.now } with
      | error f' => simp [active]
      | ok books => simp [active, stored] at failed
    · simp [active]

theorem admitLines_eq_ok {req : EntryRequest} {lines : List Line} {debit credit : Decimal}
    (admitted : admitLines req = .ok (lines, debit, credit)) :
    req.violation = none ∧ lines = buildLines req ∧ checkBalance lines = .ok (debit, credit) := by
  unfold admitLines at admitted
  cases violation : req.violation with
  | some v => simp [violation, bind, Except.bind, throw, throwThe, MonadExceptOf.throw] at admitted
  | none =>
    simp only [violation] at admitted
    obtain ⟨⟨debit', credit'⟩, checked, admitted⟩ := Except.bind_eq_ok.mp admitted
    simp only [pure, Except.pure, Except.ok.injEq, Prod.mk.injEq] at admitted
    obtain ⟨rfl, rfl, rfl⟩ := admitted
    exact ⟨rfl, rfl, checked⟩

theorem deactivateAccount_ok {code : Ref} (done : (o.deactivateAccount c code).1 = .ok ()) :
    ∃ books, books.Redescribed o.books ∧ (o.deactivateAccount c code).2 = { o with books } := by
  unfold deactivateAccount at done ⊢
  cases found : accountByCode o.books c.tenant code with
  | error f => simp [found] at done
  | ok a =>
    simp only [found] at done ⊢
    by_cases active : a.active = true
    · cases stored : storeChanges o.books { a with active := false, audit := a.audit.touch c.user c.now } with
      | error f => simp [active, stored] at done
      | ok books => exact ⟨books, storeChanges_redescribed stored, by simp [active]⟩
    · exact ⟨o.books, Books.Redescribed.refl _, by simp [active]⟩

@[simp] theorem announce_books (kind : EventKind) (e : Entry) : (o.announce c kind e).books = o.books :=
  rfl

-- Drafting: the number is issued only once the request is admitted, so a failure before it
-- leaves the office as it was; a failure after it can only be a taken number.
theorem createDraft_error {req : EntryRequest} {f : Fault}
    (failed : (o.createDraft c req).1 = .error f) :
    (o.createDraft c req).2 = o ∨
      (req.violation = none ∧
        (o.books.entry? (entryKey c.tenant (entryNumber (voucherPrefix req.voucher)
          (o.books.lastNumber c.tenant (voucherPrefix req.voucher) + 1)))).isSome ∧
        (o.createDraft c req).2 =
          { o with books := (o.books.nextNumber c.tenant (voucherPrefix req.voucher)).2,
                   issued := o.issued + 1 }) := by
  revert failed
  unfold createDraft
  extract_lets jp admitted
  generalize settled : admitted = r
  cases r with
  | error f' => intro _; exact Or.inl rfl
  | ok r =>
    obtain ⟨lines, debit, credit⟩ := r
    intro failed
    right
    simp only [admitted, jp] at settled
    split at settled
    · simp [throw, throwThe, MonadExceptOf.throw, bind, Except.bind] at settled
    · obtain ⟨violation, _, _⟩ := admitLines_eq_ok settled
      simp only [freshId] at failed ⊢
      split at failed
      · rename_i f'' added
        have taken := Books.addEntry_eq_error added
        simp only [Entry.key, Books.nextNumber_entry?, Books.nextNumber_fst] at taken
        exact ⟨violation, taken, rfl⟩
      · cases failed

-- A stored draft is the entry built from the admitted lines, under the next number of its
-- voucher's sequence and the next identifier, stored under a free key with nothing announced;
-- the counter moves to its identifier.
theorem createDraft_eq_ok {req : EntryRequest} {e : Entry} (drafted : (o.createDraft c req).1 = .ok e) :
    ∃ lines debit credit, admitLines req = .ok (lines, debit, credit) ∧
      e = { id := o.ids (o.issued + 1), tenant := c.tenant,
            number := entryNumber (voucherPrefix req.voucher)
              (o.books.lastNumber c.tenant (voucherPrefix req.voucher) + 1),
            date := if req.date.isZero then c.now else req.date, voucher := voucherPrefix req.voucher,
            description := req.description, reference := req.reference, status := .draft,
            totalDebit := debit, totalCredit := credit, postedBy := "", postedAt := none,
            reversalOf := "", reversedBy := "", lines, audit := Audit.new c.user c.now } ∧
      o.books.entry? e.key = none ∧
      (o.createDraft c req).2.books =
        { (o.books.nextNumber c.tenant (voucherPrefix req.voucher)).2 with
          entries := o.books.entries ++ [e]
          entryIDs := setKey o.books.entryIDs e.id e.key } ∧
      (o.createDraft c req).2.events = o.events ∧ (o.createDraft c req).2.issued = o.issued + 1 := by
  revert drafted
  unfold createDraft
  extract_lets jp admitted
  generalize settled : admitted = r
  cases r with
  | error f => intro drafted; cases drafted
  | ok r =>
    obtain ⟨lines, debit, credit⟩ := r
    intro drafted
    simp only [admitted, jp] at settled
    split at settled
    · simp [throw, throwThe, MonadExceptOf.throw, bind, Except.bind] at settled
    · simp only [freshId] at drafted ⊢
      split at drafted
      · cases drafted
      · rename_i books added
        cases drafted
        obtain ⟨free, rfl⟩ := Books.addEntry_eq_ok.mp added
        simp only [Books.nextNumber_entry?] at free
        -- inline the voucher prefix first: compared under its name, it is unfolded last
        dsimp +zetaDelta only at free ⊢
        exact ⟨lines, debit, credit, settled, rfl, free, Books.notePosting_draft _, rfl, rfl⟩

theorem createDraft_ok {req : EntryRequest} {e : Entry} (drafted : (o.createDraft c req).1 = .ok e) :
    req.violation = none ∧ e.tenant = c.tenant ∧ e.status = .draft ∧ e.reversalOf = "" ∧
      e.reversedBy = "" ∧
      e.number = entryNumber (voucherPrefix req.voucher)
        (o.books.lastNumber c.tenant (voucherPrefix req.voucher) + 1) ∧
      o.books.entry? e.key = none ∧
      (o.createDraft c req).2.books =
        { (o.books.nextNumber c.tenant (voucherPrefix req.voucher)).2 with
          entries := o.books.entries ++ [e]
          entryIDs := setKey o.books.entryIDs e.id e.key } ∧
      (o.createDraft c req).2.events = o.events := by
  obtain ⟨lines, debit, credit, admitted, built, free, books, quiet, -⟩ := createDraft_eq_ok drafted
  have violation := (admitLines_eq_ok admitted).1
  rw [built] at free books ⊢
  exact ⟨violation, rfl, rfl, rfl, rfl, rfl, free, books, quiet⟩

-- A service that runs one transaction on the books keeps the office when the transaction fails.
theorem withinTx_failed {α : Type} {body : TxBody α} {f : Fault}
    (failed : (o.books.withinTx body).1 = .error f) : { o with books := (o.books.withinTx body).2 } = o := by
  rw [Books.withinTx_keeps_on_error body failed]

theorem updateDraft_error {number : Ref} {req : EntryRequest} {f : Fault}
    (failed : (o.updateDraft c number req).1 = .error f) : (o.updateDraft c number req).2 = o := by
  revert failed
  unfold updateDraft
  split
  · intro _
    rfl
  · exact withinTx_failed

-- Editing a draft: the stored draft of the tenant with that number is replaced by itself with
-- new content, still a draft.
theorem updateDraft_ok {number : Ref} {req : EntryRequest} {e : Entry}
    (updated : (o.updateDraft c number req).1 = .ok e) :
    ∃ e0 ∈ o.books.entries, e0.tenant = c.tenant ∧ e0.status = .draft ∧ ∃ lines debit credit,
      e = { e0 with
        date := if req.date.isZero then e0.date else req.date, description := req.description,
        reference := req.reference, lines, totalDebit := debit, totalCredit := credit,
        audit := e0.audit.touch c.user c.now } ∧
      (o.updateDraft c number req).2 = { o with books := o.books.replaceEntry e } := by
  revert updated
  unfold updateDraft
  split
  · intro updated
    cases updated
  · rename_i lines debit credit _
    rw [Books.withinTx_editBody]
    cases checked : checkedEntry o.books c.tenant number (·.status != .draft)
        (fun e => .notDraft e.number e.status .edit) with
    | error f =>
      intro updated
      cases updated
    | ok e0 =>
      intro updated
      cases updated
      obtain ⟨found, draft⟩ := checkedEntry_eq_ok.mp checked
      obtain ⟨member, tenant, _⟩ := entryByNumber_eq_ok found
      exact ⟨e0, member, tenant, by simpa using draft, lines, debit, credit, rfl, rfl⟩

theorem discardDraft_error {number : Ref} {f : Fault}
    (failed : (o.discardDraft c number).1 = .error f) : (o.discardDraft c number).2 = o :=
  withinTx_failed failed

theorem discardDraft_ok {number : Ref} (done : (o.discardDraft c number).1 = .ok ()) :
    ∃ e0 ∈ o.books.entries, e0.tenant = c.tenant ∧ e0.status = .draft ∧
      (o.discardDraft c number).2 = { o with books := o.books.removeEntry e0.key } := by
  revert done
  unfold discardDraft
  rw [Books.withinTx_discardBody]
  cases checked : checkedEntry o.books c.tenant number (·.status != .draft)
      (fun e => .notDraft e.number e.status .discard) with
  | error f =>
    intro done
    cases done
  | ok e0 =>
    intro _
    obtain ⟨found, draft⟩ := checkedEntry_eq_ok.mp checked
    obtain ⟨member, tenant, _⟩ := entryByNumber_eq_ok found
    exact ⟨e0, member, tenant, by simpa using draft, rfl⟩

theorem postEntry_error {number : Ref} {f : Fault}
    (failed : (o.postEntry c number).1 = .error f) : (o.postEntry c number).2 = o := by
  revert failed
  unfold postEntry
  rw [Books.withinTx_postBody]
  cases postPlan o.books c number with
  | error f' =>
    intro _
    rfl
  | ok result =>
    intro failed
    cases failed

-- A posting that succeeds found the tenant's draft under the number, posted its lines, stored
-- the writes and put the posted entry in the draft's place.
theorem postEntry_eq_ok {number : Ref} {e : Entry} (posted : (o.postEntry c number).1 = .ok e) :
    ∃ e0 writes, entryByNumber o.books c.tenant number = .ok e0 ∧ e0.status = .draft ∧
      postLines o.books c e0 = .ok (e, writes) ∧
      (o.postEntry c number).2.books = (o.books.applyWrites writes c.user c.now).replaceEntry e := by
  revert posted
  unfold postEntry
  rw [Books.withinTx_postBody]
  cases planned : postPlan o.books c number with
  | error f =>
    intro posted
    cases posted
  | ok result =>
    obtain ⟨e', writes⟩ := result
    intro posted
    cases posted
    obtain ⟨e0, checked, lined⟩ := Except.bind_eq_ok.mp planned
    obtain ⟨found, draft⟩ := checkedEntry_eq_ok.mp checked
    exact ⟨e0, writes, found, by simpa using draft, lined, rfl⟩

-- Posting: the stored draft is posted by the posting rules, its writes are stored and the
-- posted entry replaces the draft.
theorem postEntry_ok {number : Ref} {e : Entry} (posted : (o.postEntry c number).1 = .ok e) :
    ∃ e0 ∈ o.books.entries, e0.tenant = c.tenant ∧ e0.status = .draft ∧ ∃ writes,
      postLines o.books c e0 = .ok (e, writes) ∧
      (o.postEntry c number).2.books = (o.books.applyWrites writes c.user c.now).replaceEntry e := by
  obtain ⟨e0, writes, found, draft, lines, books⟩ := postEntry_eq_ok posted
  obtain ⟨member, tenant, _⟩ := entryByNumber_eq_ok found
  exact ⟨e0, member, tenant, draft, writes, lines, books⟩

-- A failing reversal has issued its number and stored nothing: the transaction keeps the books
-- whether or not its source passed.
theorem reverseEntry_error {number : Ref} {f : Fault}
    (failed : (o.reverseEntry c number).1 = .error f) :
    (o.reverseEntry c number).2.books = (o.books.nextNumber c.tenant "RV").2 ∧
      (o.reverseEntry c number).2.events = o.events := by
  revert failed
  unfold reverseEntry
  simp only [freshId]
  rcases settled : (o.books.nextNumber c.tenant "RV").2.withinTxAfter (reversalSource c number)
      (reversalBody c number (o.ids (o.issued + 1)) (entryNumber "RV" (o.books.nextNumber c.tenant "RV").1))
    with ⟨r, first, books⟩
  cases r with
  | error f' =>
    have kept := Books.withinTxAfter_keeps_on_error (b := (o.books.nextNumber c.tenant "RV").2)
      (reversalSource c number)
      (reversalBody c number (o.ids (o.issued + 1)) (entryNumber "RV" (o.books.nextNumber c.tenant "RV").1))
      (f := f') (by rw [settled])
    rw [settled] at kept
    cases kept
    intro _
    cases first <;> exact ⟨rfl, rfl⟩
  | ok pair =>
    intro failed
    cases failed

-- A reversal that succeeds found a posted entry of the tenant under its number, not reversed
-- yet, posted its compensation under the identifier and number it issued, stored it, and marked
-- the source reversed.
theorem reverseEntry_eq_ok {number : Ref} {src' comp : Entry}
    (reversed : (o.reverseEntry c number).1 = .ok (src', comp)) :
    ∃ src writes books, entryByNumber (o.books.nextNumber c.tenant "RV").2 c.tenant number = .ok src ∧
      src.status = .posted ∧ src.reversedBy = "" ∧
      postLines (o.books.nextNumber c.tenant "RV").2 c
        (compensation c (o.ids (o.issued + 1))
          (entryNumber "RV" (o.books.lastNumber c.tenant "RV" + 1)) src) = .ok (comp, writes) ∧
      ((o.books.nextNumber c.tenant "RV").2.applyWrites writes c.user c.now).addEntry comp =
        .ok books ∧
      src' = { src with
        status := .reversed, reversedBy := comp.number, audit := src.audit.touch c.user c.now } ∧
      (o.reverseEntry c number).2.books = books.replaceEntry src' ∧
      (o.reverseEntry c number).2.issued = o.issued + 1 + 1 := by
  revert reversed
  unfold reverseEntry
  simp only [freshId]
  rw [Books.withinTxAfter_reversal]
  cases planned : sourcePlan (o.books.nextNumber c.tenant "RV").2 c number with
  | error f =>
    intro reversed
    cases reversed
  | ok src =>
    dsimp only
    cases lined : postLines (o.books.nextNumber c.tenant "RV").2 c
        (compensation c (o.ids (o.issued + 1)) (entryNumber "RV" (o.books.nextNumber c.tenant "RV").1) src) with
    | error f =>
      intro reversed
      cases reversed
    | ok result =>
      obtain ⟨comp', writes⟩ := result
      dsimp only
      cases added : ((o.books.nextNumber c.tenant "RV").2.applyWrites writes c.user c.now).addEntry comp' with
      | error f =>
        intro reversed
        cases reversed
      | ok books =>
        intro reversed
        cases reversed
        obtain ⟨found, live, fresh⟩ := sourcePlan_eq_ok planned
        exact ⟨src, writes, books, found, live, fresh, lined, added, rfl, rfl, rfl⟩

-- Reversing: the source, a posted entry of the tenant not yet reversed, is marked reversed by
-- a compensating entry, posted by the posting rules and stored under the number just issued.
theorem reverseEntry_ok {number : Ref} {src' comp : Entry}
    (reversed : (o.reverseEntry c number).1 = .ok (src', comp)) :
    ∃ src ∈ o.books.entries, src.tenant = c.tenant ∧ src.status = .posted ∧ src.reversedBy = "" ∧
      ∃ id writes books,
        postLines (o.books.nextNumber c.tenant "RV").2 c
          (compensation c id (entryNumber "RV" (o.books.lastNumber c.tenant "RV" + 1)) src) =
            .ok (comp, writes) ∧
        ((o.books.nextNumber c.tenant "RV").2.applyWrites writes c.user c.now).addEntry comp =
          .ok books ∧
        src' = { src with
          status := .reversed, reversedBy := comp.number, audit := src.audit.touch c.user c.now } ∧
        (o.reverseEntry c number).2.books = books.replaceEntry src' := by
  obtain ⟨src, writes, books, found, live, fresh, posting, added, marked, stored, -⟩ :=
    reverseEntry_eq_ok reversed
  obtain ⟨member, tenant, _⟩ := entryByNumber_eq_ok found
  exact ⟨src, by simpa using member, tenant, live, fresh, _, writes, books, posting, added, marked,
    stored⟩

end Office

-- What one call can do to the books, read off the lemmas above: nothing, open an account,
-- change the details of accounts, store a draft, issue a number and store nothing, rewrite,
-- discard or post a draft, or reverse a posted entry. The context is the caller's.
inductive Books.Change (c : Ctx) (b : Books) : Books → Prop
  | unchanged : Change c b b
  | opened (a : Account) (free : b.account? a.key = none) (fresh : (b.accountById? a.id).isNone)
      (opening : a.balance = a.opening) :
      Change c b { b with
        accounts := b.accounts ++ [a]
        accountIDs := setKey b.accountIDs a.id a.key }
  | redescribed {b' : Books} (kept : b'.Redescribed b) : Change c b b'
  | drafted (pfx : String) (e : Entry) (barFree : BarFree pfx) (tenant : e.tenant = c.tenant)
      (draft : e.status = .draft) (unlinked : e.reversalOf = "" ∧ e.reversedBy = "")
      (numbered : e.number = Office.entryNumber pfx (b.lastNumber c.tenant pfx + 1))
      (free : b.entry? e.key = none) :
      Change c b { (b.nextNumber c.tenant pfx).2 with
        entries := b.entries ++ [e]
        entryIDs := setKey b.entryIDs e.id e.key }
  | numbered (pfx : String) (barFree : BarFree pfx) : Change c b (b.nextNumber c.tenant pfx).2
  | redrafted (e0 e : Entry) (member : e0 ∈ b.entries) (draft : e0.status = .draft)
      (same : e.Rewrites e0) : Change c b (b.replaceEntry e)
  | discarded (e0 : Entry) (member : e0 ∈ b.entries) (draft : e0.status = .draft) :
      Change c b (b.removeEntry e0.key)
  | posted (e0 e : Entry) (writes : List (String × Decimal)) (member : e0 ∈ b.entries)
      (draft : e0.status = .draft) (posting : postLines b c e0 = .ok (e, writes)) :
      Change c b ((b.applyWrites writes c.user c.now).replaceEntry e)
  | reversed (src comp : Entry) (id : String) (writes : List (String × Decimal)) (b' : Books)
      (member : src ∈ b.entries) (tenant : src.tenant = c.tenant) (live : src.status = .posted)
      (unreversed : src.reversedBy = "")
      (posting : postLines (b.nextNumber c.tenant "RV").2 c
        (Office.compensation c id (Office.entryNumber "RV" (b.lastNumber c.tenant "RV" + 1)) src) =
          .ok (comp, writes))
      (stored : ((b.nextNumber c.tenant "RV").2.applyWrites writes c.user c.now).addEntry comp =
        .ok b') :
      Change c b (b'.replaceEntry { src with
        status := .reversed, reversedBy := comp.number, audit := src.audit.touch c.user c.now })

-- Every call, failing or not, changes the books in one of these ways.
theorem Call.perform_change (call : Call) (o : Office) :
    Books.Change call.ctx o.books (call.perform o).2.books := by
  cases call with
  | registerAccount c req =>
    simp only [Call.perform, Call.settle_snd, Call.ctx]
    cases opened : (o.registerAccount c req).1 with
    | error f => rw [(Office.registerAccount_error opened).1]; exact .unchanged
    | ok a =>
      obtain ⟨free, unused, _, _, opening, _, books, _⟩ := Office.registerAccount_ok opened
      rw [books]
      exact .opened a free unused opening
  | updateAccount c code patch =>
    simp only [Call.perform, Call.settle_snd, Call.ctx]
    cases changed : (o.updateAccount c code patch).1 with
    | error f => rw [Office.updateAccount_error changed]; exact .unchanged
    | ok a =>
      obtain ⟨books, kept, same⟩ := Office.updateAccount_ok changed
      rw [same]
      exact .redescribed kept
  | deactivateAccount c code =>
    simp only [Call.perform, Call.ctx]
    cases done : (o.deactivateAccount c code).1 with
    | error f => rw [Office.deactivateAccount_error done]; exact .unchanged
    | ok u =>
      obtain ⟨books, kept, same⟩ := Office.deactivateAccount_ok done
      rw [same]
      exact .redescribed kept
  | createDraft c req =>
    simp only [Call.perform, Call.settle_snd, Call.ctx]
    cases drafted : (o.createDraft c req).1 with
    | error f =>
      rcases Office.createDraft_error drafted with same | ⟨valid, _, same⟩
      · rw [same]; exact .unchanged
      · rw [same]; exact .numbered _ (voucherPrefix_barFree valid)
    | ok e =>
      obtain ⟨valid, tenant, draft, reversalOf, reversedBy, number, free, books, _⟩ :=
        Office.createDraft_ok drafted
      rw [books]
      exact .drafted _ e (voucherPrefix_barFree valid) tenant draft ⟨reversalOf, reversedBy⟩ number free
  | updateDraft c number req =>
    simp only [Call.perform, Call.settle_snd, Call.ctx]
    cases updated : (o.updateDraft c number req).1 with
    | error f => rw [Office.updateDraft_error updated]; exact .unchanged
    | ok e =>
      obtain ⟨e0, member, _, draft, _, _, _, rfl, same⟩ := Office.updateDraft_ok updated
      rw [same]
      exact .redrafted e0 _ member draft ⟨rfl, rfl, rfl, rfl, rfl, rfl⟩
  | discardDraft c number =>
    simp only [Call.perform, Call.ctx]
    cases done : (o.discardDraft c number).1 with
    | error f => rw [Office.discardDraft_error done]; exact .unchanged
    | ok u =>
      obtain ⟨e0, member, _, draft, same⟩ := Office.discardDraft_ok done
      rw [same]
      exact .discarded e0 member draft
  | postEntry c number =>
    simp only [Call.perform, Call.settle_snd, Call.ctx]
    cases posted : (o.postEntry c number).1 with
    | error f => rw [Office.postEntry_error posted]; exact .unchanged
    | ok e =>
      obtain ⟨e0, member, _, draft, writes, posting, books⟩ := Office.postEntry_ok posted
      rw [books]
      exact .posted e0 e writes member draft posting
  | reverseEntry c number =>
    simp only [Call.perform, Call.settle_snd, Call.ctx]
    cases reversed : (o.reverseEntry c number).1 with
    | error f =>
      rw [(Office.reverseEntry_error reversed).1]
      exact .numbered "RV" barFree_reversal
    | ok pair =>
      obtain ⟨src', comp⟩ := pair
      obtain ⟨src, member, tenant, live, unreversed, id, writes, b', posting, stored, rfl, books⟩ :=
        Office.reverseEntry_ok reversed
      rw [books]
      exact .reversed src comp id writes b' member tenant live unreversed posting stored

end Ledger
